import SignedControl.Link.Task
import SignedControl.Proofs.Node.Service

/-!
# A link and a node, joined by a stream

A circuit is a client's link and a node's connection at the two ends of a stream that loses and
changes nothing. Both ends and the client take their steps in any order: the client sends and polls,
the link's task writes a request, reads some bytes or works on what it has read, and the node reads
some bytes or answers one frame of those that it has read. A read takes as many bytes as happen to
have come through, and never more than there is room for. So a list of events is a schedule and, at
once, a cut of both streams.

The steps of the link are those of `Link`. A connection answers everything that it has read before it
reads again; here it does so frame by frame, and other events may come in between. A frame is put on
the stream at once, but as reads take any part of what is there, the other end cannot tell this from
writing it bit by bit.

* `Wire.Carried.next_cases`: what a decoder gives while frames are on their way to it.
* `Circuit.exists_answers_of_receive`: answering frame by frame is what a connection does.
* `Circuit.step`, `Circuit.run`: what may happen on a circuit.
-/

namespace SignedControl

/-- What the first one gives stands in front. -/
theorem filterMap_cons_eq_append {α β : Type} (f : α → Option β) (a : α) (as : List α) :
    (a :: as).filterMap f = (f a).toList ++ as.filterMap f := by
  rw [List.filterMap_cons]
  cases f a <;> rfl

namespace Wire

/-! ## Frames on their way -/

/-- Some frames are on their way: a decoder has read some bytes of them, and `tail` is on the
stream. -/
structure Carried (d : Decoder) (tail : Bytes) (fs : List Frame) : Prop where
  /-- The bytes are those of the frames. -/
  stream_eq : d.buffer ++ tail = streamOf fs
  /-- No frame is too long. -/
  length_le : ∀ f ∈ fs, (encodeFrame f).length ≤ maxFrameSize

namespace Carried

variable {d : Decoder} {tail : Bytes} {fs : List Frame}

theorem nil : Carried .empty [] [] := ⟨rfl, List.forall_mem_nil _⟩

/-- Another frame is written. -/
theorem write (h : Carried d tail fs) {f : Frame} {bytes : Bytes} (hf : encode f = .ok bytes) :
    Carried d (tail ++ bytes) (fs ++ [f]) := by
  refine ⟨?_, List.forall_mem_append.mpr ⟨h.length_le, ?_⟩⟩
  · rw [← List.append_assoc, h.stream_eq, streamOf_append, streamOf_cons, eq_framed_of_encode hf]
    exact congrArg (streamOf fs ++ ·) (List.append_nil _).symm
  · rintro _ (_ | ⟨_, ⟨⟩⟩)
    exact (encode_eq_ok_iff.mp hf).1

/-- Some more bytes are read. -/
theorem read (h : Carried d tail fs) (n : Nat) :
    Carried (d.extend (tail.take n)) (tail.drop n) fs := by
  refine ⟨?_, h.length_le⟩
  rw [Decoder.extend, List.append_assoc, List.take_append_drop, h.stream_eq]

/-- A decoder gives the frame that comes next, or has not read all of it. -/
theorem next_cases (h : Carried d tail fs) :
    d.next = (.ok none, d) ∨
      ∃ f fs' d', fs = f :: fs' ∧ d.next = (.ok (some f), d') ∧ Carried d' tail fs' := by
  obtain ⟨body, rest, hfront, hnext⟩ | ⟨-, hnext⟩ | ⟨size, hfront, -⟩ := d.next_cases
  · have hwhole := front_append_of_frame hfront tail
    rw [h.stream_eq] at hwhole
    cases fs with
    | nil => cases hwhole
    | cons f fs =>
      obtain ⟨hf, hfs⟩ := List.forall_mem_cons.mp h.length_le
      rw [streamOf_cons, front_framed hf] at hwhole
      obtain ⟨rfl, hrest⟩ := Front.frame.inj hwhole
      rw [decodeFrame_encodeFrame (Nat.lt_of_le_of_lt hf (by decide))] at hnext
      exact .inr ⟨f, fs, ⟨rest⟩, rfl, hnext, hrest.symm, hfs⟩
  · exact .inl hnext
  · have hwhole := front_append_of_invalidLength hfront tail
    rw [h.stream_eq] at hwhole
    cases fs with
    | nil => cases hwhole
    | cons f fs =>
      rw [streamOf_cons, front_framed (h.length_le f List.mem_cons_self)] at hwhole
      cases hwhole

/-- With nothing left on the stream and no whole frame read, nothing is on its way. -/
theorem eq_nil (h : Carried d [] fs) (hnext : d.next = (.ok none, d)) : fs = [] := by
  have hstream := h.stream_eq
  rw [List.append_nil] at hstream
  cases fs with
  | nil => rfl
  | cons f fs =>
    obtain ⟨hf, -⟩ := List.forall_mem_cons.mp h.length_le
    have hsome := Decoder.next_of_frame (d := d) (by rw [hstream, streamOf_cons, front_framed hf])
    rw [decodeFrame_encodeFrame (Nat.lt_of_le_of_lt hf (by decide)), hnext] at hsome
    cases hsome

end Carried

end Wire

/-! ## The node's end -/

namespace Authority

variable [SignatureScheme]

/-- The replies of a node that has given some, and has still to answer some frames; and the authority
after them. -/
def outcome (nodeId : UInt32) (a : Authority) (given pending : List Frame) :
    List Frame × Authority :=
  (given ++ (a.answerFrames nodeId pending).1, (a.answerFrames nodeId pending).2)

/-- It makes no difference when a frame is answered. -/
theorem outcome_cons (nodeId : UInt32) (a : Authority) (given pending : List Frame) (f : Frame) :
    a.outcome nodeId given (f :: pending) =
      (a.handleFrame nodeId f).2.outcome nodeId (given ++ (a.handleFrame nodeId f).1.toList)
        pending := by
  simp only [outcome, answerFrames, List.append_assoc]

/-- Another frame is still to be answered. -/
theorem outcome_concat {nodeId : UInt32} {a first : Authority} {given pending sent : List Frame}
    (h : a.outcome nodeId given pending = first.answerFrames nodeId sent) (f : Frame) :
    a.outcome nodeId given (pending ++ [f]) = first.answerFrames nodeId (sent ++ [f]) := by
  rw [answerFrames_append, ← h]
  simp only [outcome, answerFrames_append, List.append_assoc]

/-- The reply to a frame, if there is one, goes back to where the frame has come from, and can be
written behind other frames. -/
theorem carried_handleFrame (a : Authority) (nodeId : UInt32) (f : Frame) {d : Wire.Decoder}
    {tail : Bytes} {fs : List Frame} (h : Wire.Carried d tail fs) :
    Wire.Carried d (tail ++ Wire.streamOf (a.handleFrame nodeId f).1.toList)
        (fs ++ (a.handleFrame nodeId f).1.toList) ∧
      ∀ reply ∈ (a.handleFrame nodeId f).1.toList, ∃ r, reply = .ofResponse nodeId f.source r := by
  have hnone : Wire.Carried d (tail ++ Wire.streamOf []) (fs ++ []) := by
    simpa [Wire.streamOf] using h
  unfold handleFrame
  split
  · exact ⟨hnone, List.forall_mem_nil _⟩
  · split
    · next r _ =>
      refine ⟨?_, List.forall_mem_singleton.mpr ⟨_, rfl⟩⟩
      simpa [Wire.streamOf] using h.write (a.encode_ofResponse_handle nodeId f.source r)
    · exact ⟨hnone, List.forall_mem_nil _⟩

end Authority

/-! ## The link's end -/

/-- A queue of a link whose parties are both there. -/
structure Queue.IsOpen {α : Type} (q : Queue α) : Prop where
  /-- One can be put into it. -/
  hasReader : q.hasReader = true
  /-- More may come out of it. -/
  hasWriter : q.hasWriter = true
  /-- It has the places of a link's queue. -/
  capacity_eq : q.capacity = linkDepth

namespace Queue

variable {α : Type} {q : Queue α}

theorem IsOpen.put_eq (h : q.IsOpen) (hroom : q.items.length < linkDepth) (x : α) :
    q.put x = .ok { q with items := q.items ++ [x] } :=
  put_eq_ok.mpr ⟨h.hasReader, h.hasWriter, h.capacity_eq ▸ hroom, rfl⟩

theorem IsOpen.put_of_full (h : q.IsOpen) (hfull : linkDepth ≤ q.items.length) (x : α) :
    q.put x = .error .full := by
  rw [put, h.hasReader, h.hasWriter, if_neg (by decide), if_pos (h.capacity_eq ▸ hfull)]

end Queue

/-- A channel whose parties are both there. -/
structure Channel.IsOpen (c : Channel) : Prop where
  /-- The client has not learnt anything else. -/
  isClosed_eq : c.isClosed = false
  /-- The queue of requests. -/
  outbound : c.outbound.IsOpen
  /-- The queue of replies. -/
  inbound : c.inbound.IsOpen

namespace Channel

theorem IsOpen.send_eq {c : Channel} (h : c.IsOpen) (hroom : c.outbound.items.length < linkDepth)
    (r : SignedRequest) (target : UInt32) :
    c.send r target = (.ok (), { c with outbound := { c.outbound with
      items := c.outbound.items ++ [.ofRequest c.localNode target r.toRequest] } }) := by
  rw [send, h.isClosed_eq, if_neg Bool.false_ne_true, h.outbound.put_eq hroom]

theorem IsOpen.poll_of_nil {c : Channel} (h : c.IsOpen) (hi : c.inbound.items = []) :
    c.poll = (none, c) := by
  have hgone : (c.isClosed || c.inbound.isFinished) = c.isClosed := by
    rw [Queue.isFinished, h.inbound.hasWriter, Bool.not_true, Bool.and_false, Bool.or_false]
  simp only [poll, Queue.take, hi, hgone]

theorem poll_of_cons {c : Channel} {r : Response} {rest : List Response}
    (hi : c.inbound.items = r :: rest) :
    c.poll = (some r, { c with inbound := { c.inbound with items := rest } }) := by
  simp only [poll, Queue.take, hi]

end Channel

namespace Link

variable {l : Link}

theorem write?_of_ne (h : l.activity ≠ .waiting) : l.write? = none := by
  rw [write?]
  split
  · contradiction
  · rfl

theorem write?_of_nil (h : l.channel.IsOpen) (hi : l.channel.outbound.items = []) :
    l.write? = none := by
  rw [write?]
  split
  · simp only [Channel.takeRequest, Queue.take, hi, Queue.isFinished, h.outbound.hasWriter]
    rfl
  · rfl

theorem write?_of_cons (ha : l.activity = .waiting) {f : Frame} {rest : List Frame}
    (hi : l.channel.outbound.items = f :: rest) {bytes : Bytes} (hf : Wire.encode f = .ok bytes) :
    l.write? = some (bytes, { l with channel := { l.channel with
      outbound := { l.channel.outbound with items := rest } } }) := by
  simp only [write?, ha, Channel.takeRequest, Queue.take, hi, hf]

end Link

/-! ## Both ends -/

/-- A client's link and a node's connection at the two ends of a stream. -/
structure Circuit where
  /-- The client's link. -/
  link : Link
  /-- What the link has written and the node has not read. -/
  toNode : Bytes
  /-- The node's connection. -/
  connection : Node.Connection
  /-- Whether the node is busy with what it has read. -/
  isAnswering : Bool
  /-- The node's authority. -/
  authority : Authority
  /-- What the node has written and the link has not read. -/
  toLink : Bytes
  /-- The replies that the client has polled, in order. -/
  polled : List Response

/-- What may happen on a circuit. -/
inductive CircuitEvent where
  /-- The client sends a request. -/
  | send (r : SignedRequest) (target : UInt32)
  /-- The client polls. -/
  | poll
  /-- The link's task writes the next request. -/
  | write
  /-- The link's task reads, when some bytes have come through. -/
  | read (count : Nat)
  /-- The link's task does what is not on the stream. -/
  | work
  /-- The node reads, when some bytes have come through. -/
  | receive (count : Nat)
  /-- The node answers the next frame. -/
  | answer

/-- The request that is sent, if one is, and the node it is for. -/
def CircuitEvent.request? : CircuitEvent → Option (SignedRequest × UInt32)
  | .send r target => some (r, target)
  | _ => none

/-- The frame that carries it. -/
def CircuitEvent.frame? (localNode : UInt32) (e : CircuitEvent) : Option Frame :=
  e.request?.map fun sending => .ofRequest localNode sending.2 sending.1.toRequest

/-- The reply that a link's task has in hand. -/
def Activity.inHand : Activity → List Response
  | .delivering r => [r]
  | _ => []

namespace Circuit

/-- A circuit that nothing has been sent on. -/
def new (localNode : UInt32) (a : Authority) : Circuit where
  link := .new localNode
  toNode := []
  connection := .new
  isAnswering := false
  authority := a
  toLink := []
  polled := []

/-- The replies that the link has taken from the stream. -/
def arrived (c : Circuit) : List Response :=
  c.polled ++ (c.link.channel.inbound.items ++ c.link.activity.inHand)

/-- The circuit after the node has answered some frames. -/
def answered (c : Circuit) (goesOn : Bool) (served : Node.Served) : Circuit :=
  { c with
    connection := ⟨served.decoder, match served.failure with
      | none => .running
      | some e => .failed e⟩
    isAnswering := goesOn
    authority := served.authority
    toLink := c.toLink ++ served.written }

variable [SignatureScheme]

/-- What an event does. Nothing happens if a party has nothing to do, or no bytes have come. -/
def step (nodeId : UInt32) (c : Circuit) : CircuitEvent → Circuit
  | .send r target =>
    { c with link := { c.link with channel := (c.link.channel.send r target).2 } }
  | .poll =>
    let (r, channel) := c.link.channel.poll
    { c with link := { c.link with channel := channel }, polled := c.polled ++ r.toList }
  | .write =>
    match c.link.write? with
    | some (bytes, link) => { c with link := link, toNode := c.toNode ++ bytes }
    | none => c
  | .read count =>
    let size := min count Link.readSize
    if (c.toLink.take size).isEmpty then c
    else
      match c.link.read? (c.toLink.take size) with
      | some link => { c with link := link, toLink := c.toLink.drop size }
      | none => c
  | .work =>
    match c.link.work? with
    | some link => { c with link := link }
    | none => c
  | .receive count =>
    let size := min count Node.readSize
    if c.isAnswering || c.connection.status ≠ .running || (c.toNode.take size).isEmpty then c
    else
      { c with
        connection :=
          { c.connection with decoder := c.connection.decoder.extend (c.toNode.take size) }
        isAnswering := true
        toNode := c.toNode.drop size }
  | .answer =>
    if !c.isAnswering then c
    else
      let (goesOn, served) := Node.serveNext nodeId c.authority c.connection.decoder
      c.answered goesOn served

/-- What events do, one after another. -/
def run (nodeId : UInt32) (c : Circuit) (events : List CircuitEvent) : Circuit :=
  events.foldl (step nodeId) c

/-- A node that is busy answers, frame after frame, all that it has read. -/
theorem exists_answers (nodeId : UInt32) {c : Circuit} (ha : c.isAnswering = true) :
    ∃ count, c.run nodeId (List.replicate count .answer) =
      c.answered false (Node.serveBuffered nodeId c.authority c.connection.decoder) := by
  induction hlen : c.connection.decoder.buffer.length using Nat.strongRecOn generalizing c with
  | _ len ih =>
    have hle := Node.serveNext_le nodeId c.authority c.connection.decoder
    have hall := Node.serveBuffered_eq_serveNext nodeId c.authority c.connection.decoder
    rcases hnext : Node.serveNext nodeId c.authority c.connection.decoder with ⟨goesOn, served⟩
    have hstep : c.step nodeId .answer = c.answered goesOn served := by
      rw [step, ha, hnext]
      rfl
    rw [hnext] at hle hall
    cases goesOn with
    | false => exact ⟨1, by rw [hall]; exact hstep⟩
    | true =>
      have hless : served.decoder.buffer.length < len := by
        simp only [Bool.toNat_true] at hle
        omega
      obtain ⟨count, hrest⟩ := ih _ hless (c := c.answered true served) rfl rfl
      refine ⟨count + 1, ?_⟩
      rw [List.replicate_succ, run, List.foldl_cons, hstep, hall]
      refine hrest.trans ?_
      simp only [answered, List.append_assoc]

/-- So what it has read is answered as a connection answers it. -/
theorem exists_answers_of_receive (nodeId : UInt32) {c : Circuit} {count : Nat}
    (ha : c.isAnswering = false) (hs : c.connection.status = .running)
    (hb : (c.toNode.take (min count Node.readSize)).isEmpty = false) :
    ∃ answers, (c.step nodeId (.receive count)).run nodeId (List.replicate answers .answer) =
      let (written, connection, a) := c.connection.receive nodeId c.authority
        (c.toNode.take (min count Node.readSize))
      { c with
        connection := connection
        authority := a
        toNode := c.toNode.drop (min count Node.readSize)
        toLink := c.toLink ++ written } := by
  have hstep : c.step nodeId (.receive count) = { c with
      connection := { c.connection with
        decoder := c.connection.decoder.extend (c.toNode.take (min count Node.readSize)) }
      isAnswering := true
      toNode := c.toNode.drop (min count Node.readSize) } := by
    simp only [step, ha, hs, hb]
    rfl
  obtain ⟨answers, h⟩ := exists_answers nodeId (c := c.step nodeId (.receive count)) (by rw [hstep])
  refine ⟨answers, ?_⟩
  rw [h, hstep]
  simp only [answered, Node.Connection.receive, hs, hb, ha]
  rfl

/-- No request of a run finds the queue full. -/
def HasRoom (nodeId : UInt32) (c : Circuit) (events : List CircuitEvent) : Prop :=
  ∀ before r target after, events = before ++ .send r target :: after →
    (c.run nodeId before).link.channel.outbound.items.length < linkDepth

theorem HasRoom.tail {nodeId : UInt32} {c : Circuit} {e : CircuitEvent}
    {events : List CircuitEvent} (h : c.HasRoom nodeId (e :: events)) :
    (c.step nodeId e).HasRoom nodeId events := by
  rintro before r target after rfl
  exact h (e :: before) r target after rfl

end Circuit

end SignedControl
