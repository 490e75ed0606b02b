import SignedControl.Proofs.Link.Circuit

/-!
# A link by itself

Nothing is known here of what is at the other end of the stream: any bytes may come in, in pieces of
any size, and the stream may end or break. `Traffic` is a link with a record of what has gone over it.
The client sends, polls and leaves, and the task takes its steps, in any order; while the task is writing
a frame, some of which has gone out and some of which has not, it does nothing else.

`Traffic.Steps` lists all that an event can do, one constructor for each way through the functions of the
link, and `steps_step` says that there is no other. Proofs about runs have these cases and open none of
the functions behind them.

* `Channel.send_cases`, `Link.write?_cases`, `Link.work?_cases`: what the parts of a link do.
* `Traffic.steps_step`: what an event does.
* `Traffic.joined_run`: both queues have a task at their other end exactly until it ends.
* `Traffic.send_of_refused`, `Traffic.send_of_found_gone`: a client that knows that the link is gone goes
  on knowing it.
-/

namespace SignedControl

/-! ## The parts -/

/-- A request is let into the queue, or is lost because the queue is full, or is refused; then the
channel is closed. -/
theorem Channel.send_cases (c : Channel) (r : SignedRequest) (target : UInt32) :
    (c.outbound.hasReader = true ∧ c.outbound.items.length < c.outbound.capacity ∧
      c.send r target = (.ok (), { c with outbound := { c.outbound with
        items := c.outbound.items ++ [.ofRequest c.localNode target r.toRequest] } })) ∨
    (c.outbound.capacity ≤ c.outbound.items.length ∧ c.send r target = (.ok (), c)) ∨
    ∃ reason, c.send r target = (.error (.closed reason), { c with isClosed := true }) := by
  unfold send
  split
  · next hclosed =>
    refine .inr (.inr ⟨"link task ended", ?_⟩)
    rw [← hclosed]
  · split
    · next outbound hput =>
      obtain ⟨hreader, -, hroom, rfl⟩ := Queue.put_eq_ok.mp hput
      exact .inl ⟨hreader, hroom, rfl⟩
    · next hput =>
      refine .inr (.inl ⟨?_, rfl⟩)
      unfold Queue.put at hput
      split at hput
      · cases hput
      · split at hput
        · assumption
        · cases hput
    · exact .inr (.inr ⟨_, rfl⟩)

theorem Channel.isClosed_of_send {c : Channel} {r : SignedRequest} {target : UInt32}
    {e : TransportError} (h : (c.send r target).1 = .error e) : (c.send r target).2.isClosed = true := by
  obtain ⟨-, -, hs⟩ | ⟨-, hs⟩ | ⟨reason, hs⟩ := c.send_cases r target
  · rw [hs] at h
    cases h
  · rw [hs] at h
    cases h
  · rw [hs]

theorem Channel.poll_of_nil {c : Channel} (hi : c.inbound.items = []) :
    c.poll = (none, { c with isClosed := c.isClosed || !c.inbound.hasWriter }) := by
  simp only [poll, Queue.take, hi, Queue.isFinished, List.isEmpty_nil, Bool.true_and]

/-- A poll gives nothing only if there is nothing. -/
theorem Channel.items_of_poll {c : Channel} (h : c.poll.1 = none) : c.inbound.items = [] := by
  cases hi : c.inbound.items with
  | nil => rfl
  | cons r rest =>
    rw [poll_of_cons hi] at h
    cases h

/-- The reply that a frame carries, if it is for a node and carries one. -/
def Frame.replyFor? (localNode : UInt32) (f : Frame) : Option Response :=
  match f.body with
  | some (.response r) => if f.target = localNode then some r else none
  | _ => none

namespace Link

variable {l l' : Link}

theorem accept_of_none {f : Frame} (h : f.replyFor? l.channel.localNode = none) :
    l.accept f = l := by
  unfold Frame.replyFor? at h
  split at h
  · next hbody =>
    split at h
    · cases h
    · next htarget => simp only [accept, hbody, if_neg htarget]
  · next hbody =>
    unfold accept
    split
    · next r hr => exact absurd hr (hbody r)
    · rfl

theorem accept_of_some {f : Frame} {r : Response} (h : f.replyFor? l.channel.localNode = some r) :
    l.accept f = { l with activity := .delivering r } := by
  unfold Frame.replyFor? at h
  split at h
  · next hbody =>
    split at h
    · next htarget =>
      cases h
      simp only [accept, hbody, if_pos htarget]
    · cases h
  · cases h

/-- A task that wants to write takes the oldest request, or ends. -/
theorem write?_cases {bytes : Bytes} (h : l.write? = some (bytes, l')) :
    l.activity = .waiting ∧
      ((∃ f rest, l.channel.outbound.items = f :: rest ∧ Wire.encode f = .ok bytes ∧
        l' = { l with channel := { l.channel with
          outbound := { l.channel.outbound with items := rest } } }) ∨
      bytes = [] ∧ l' = l.finish) := by
  unfold write? at h
  split at h
  · next ha =>
    refine ⟨ha, ?_⟩
    cases hi : l.channel.outbound.items with
    | nil =>
      simp only [Channel.takeRequest, Queue.take, hi] at h
      split at h
      · cases h
        exact .inr ⟨rfl, rfl⟩
      · cases h
    | cons f rest =>
      simp only [Channel.takeRequest, Queue.take, hi] at h
      split at h
      · next hf =>
        cases h
        exact .inl ⟨f, rest, rfl, hf, rfl⟩
      · cases h
        exact .inr ⟨rfl, rfl⟩
  · cases h

/-- A task that works looks for the next frame in what it has read, or hands over a reply. -/
theorem work?_cases (h : l.work? = some l') :
    (l.activity = .decoding ∧
      (l.decoder.next = (.ok none, l.decoder) ∧ l' = { l with activity := .waiting } ∨
        (∃ f d, l.decoder.next = (.ok (some f), d) ∧ l' = { l with decoder := d }.accept f) ∨
        ∃ e d, l.decoder.next = (.error e, d) ∧ l' = { l with decoder := d }.finish)) ∨
    ∃ r, l.activity = .delivering r ∧
      (l.channel.inbound.hasReader = true ∧
          l' = { l with
            channel := { l.channel with
              inbound := { l.channel.inbound with items := l.channel.inbound.items ++ [r] } }
            activity := .decoding } ∨
        (l.channel.inbound.hasReader = false ∨ l.channel.inbound.hasWriter = false) ∧
          l' = l.finish) := by
  unfold work? at h
  split at h
  · next ha =>
    refine .inl ⟨ha, ?_⟩
    split at h
    · next d hnext =>
      cases h
      obtain rfl := Wire.Decoder.eq_of_next_none hnext
      exact .inl ⟨hnext, rfl⟩
    · next f d hnext =>
      cases h
      exact .inr (.inl ⟨f, d, hnext, rfl⟩)
    · next e d hnext =>
      cases h
      exact .inr (.inr ⟨e, d, hnext, rfl⟩)
  · next r ha =>
    refine .inr ⟨r, ha, ?_⟩
    unfold Channel.putReply at h
    cases hput : l.channel.inbound.put r with
    | ok inbound =>
      obtain ⟨hreader, -, -, rfl⟩ := Queue.put_eq_ok.mp hput
      rw [hput] at h
      cases h
      exact .inl ⟨hreader, rfl⟩
    | error e =>
      rw [hput] at h
      cases e with
      | full => cases h
      | abandoned =>
        cases h
        refine .inr ⟨?_, rfl⟩
        unfold Queue.put at hput
        split at hput
        · next hgone => simpa using hgone
        · split at hput <;> cases hput
  · cases h

end Link

/-! ## Events -/

/-- A request that the client has sent over a link. -/
structure LinkSending where
  /-- The frame that carries it. -/
  frame : Frame
  /-- The number of frames that were in the queue at that moment. -/
  queued : Nat
  /-- What the client was told. -/
  result : Except TransportError Unit

/-- Whether it has come into the queue: the client was not refused, and the queue was not full. -/
def LinkSending.isQueued (s : LinkSending) : Bool := s.result.isOk && s.queued < linkDepth

/-- A link, and what has gone over it. -/
structure Traffic where
  /-- The link. -/
  link : Link
  /-- What the client has sent, oldest first. -/
  sendings : List LinkSending
  /-- What the task has begun to write and has not gone out. -/
  unwritten : Bytes
  /-- What has gone out. -/
  written : Bytes
  /-- What has come in. -/
  received : Bytes
  /-- The replies that the client has polled, oldest first. -/
  polled : List Response

/-- What may happen on a link. -/
inductive LinkEvent where
  /-- The client sends a request. -/
  | send (r : SignedRequest) (target : UInt32)
  /-- The client polls. -/
  | poll
  /-- The client leaves. -/
  | leave
  /-- The task takes the next request and begins to write it. -/
  | write
  /-- Some more bytes of it go out. -/
  | flush (count : Nat)
  /-- The task reads; no bytes at all mean the end of the stream. -/
  | read (b : Bytes)
  /-- The task does what is not on the stream. -/
  | work
  /-- The stream breaks. -/
  | fail

/-- The frame that carries the request that is sent, if one is. -/
def LinkEvent.frame? (localNode : UInt32) : LinkEvent → Option Frame
  | .send r target => some (.ofRequest localNode target r.toRequest)
  | _ => none

namespace Traffic

/-- A link that nothing has gone over. -/
def new (localNode : UInt32) : Traffic where
  link := .new localNode
  sendings := []
  unwritten := []
  written := []
  received := []
  polled := []

/-- The frames that have come into the queue. -/
def queued (t : Traffic) : List Frame := (t.sendings.filter LinkSending.isQueued).map (·.frame)

/-- What an event does. Nothing happens if a party has nothing to do, or is busy. -/
def step (t : Traffic) : LinkEvent → Traffic
  | .send r target =>
    let (result, channel) := t.link.channel.send r target
    { t with
      link := { t.link with channel := channel }
      sendings := t.sendings ++ [⟨.ofRequest t.link.channel.localNode target r.toRequest,
        t.link.channel.outbound.items.length, result⟩] }
  | .poll =>
    let (r, channel) := t.link.channel.poll
    { t with link := { t.link with channel := channel }, polled := t.polled ++ r.toList }
  | .leave => { t with link := { t.link with channel := t.link.channel.dropClient } }
  | .write =>
    if t.unwritten = [] then
      match t.link.write? with
      | some (bytes, link) => { t with link := link, unwritten := bytes }
      | none => t
    else t
  | .flush count =>
    if t.link.activity = .ended then t
    else
      { t with
        unwritten := t.unwritten.drop count
        written := t.written ++ t.unwritten.take count }
  | .read b =>
    if t.unwritten = [] then
      match t.link.read? b with
      | some link => { t with link := link, received := t.received ++ b }
      | none => t
    else t
  | .work =>
    match t.link.work? with
    | some link => { t with link := link }
    | none => t
  | .fail => if t.link.activity = .waiting then { t with link := t.link.finish } else t

/-- What events do, one after another. -/
def run (t : Traffic) (events : List LinkEvent) : Traffic := events.foldl step t

theorem run_append (t : Traffic) (before after : List LinkEvent) :
    t.run (before ++ after) = (t.run before).run after := List.foldl_append

theorem run_concat (t : Traffic) (events : List LinkEvent) (e : LinkEvent) :
    t.run (events ++ [e]) = (t.run events).step e := by
  rw [run_append]
  rfl

/-- All that an event can do. -/
inductive Steps (t : Traffic) : LinkEvent → Traffic → Prop where
  /-- The request joins the queue. -/
  | queued (r : SignedRequest) (target : UInt32) (hreader : t.link.channel.outbound.hasReader = true)
    (hroom : t.link.channel.outbound.items.length < t.link.channel.outbound.capacity) :
    Steps t (.send r target) { t with
      link := { t.link with channel := { t.link.channel with
        outbound := { t.link.channel.outbound with items := t.link.channel.outbound.items ++
          [.ofRequest t.link.channel.localNode target r.toRequest] } } }
      sendings := t.sendings ++ [⟨.ofRequest t.link.channel.localNode target r.toRequest,
        t.link.channel.outbound.items.length, .ok ()⟩] }
  /-- The request is lost, and the client does not know. -/
  | lost (r : SignedRequest) (target : UInt32)
    (hfull : t.link.channel.outbound.capacity ≤ t.link.channel.outbound.items.length) :
    Steps t (.send r target) { t with
      sendings := t.sendings ++ [⟨.ofRequest t.link.channel.localNode target r.toRequest,
        t.link.channel.outbound.items.length, .ok ()⟩] }
  /-- The request is refused. -/
  | refused (r : SignedRequest) (target : UInt32) (reason : String) :
    Steps t (.send r target) { t with
      link := { t.link with channel := { t.link.channel with isClosed := true } }
      sendings := t.sendings ++ [⟨.ofRequest t.link.channel.localNode target r.toRequest,
        t.link.channel.outbound.items.length, .error (.closed reason)⟩] }
  /-- The client takes a reply out of the queue. -/
  | polled (r : Response) (rest : List Response) (hi : t.link.channel.inbound.items = r :: rest) :
    Steps t .poll { t with
      link := { t.link with channel := { t.link.channel with
        inbound := { t.link.channel.inbound with items := rest } } }
      polled := t.polled ++ [r] }
  /-- There is no reply. The client sees whether there will be any. -/
  | found (hi : t.link.channel.inbound.items = []) :
    Steps t .poll { t with link := { t.link with channel := { t.link.channel with
      isClosed := t.link.channel.isClosed || !t.link.channel.inbound.hasWriter } } }
  /-- The client leaves. -/
  | left : Steps t .leave { t with link := { t.link with channel := t.link.channel.dropClient } }
  /-- The task begins to write a request. -/
  | wrote (f : Frame) (rest : List Frame) (bytes : Bytes) (hu : t.unwritten = [])
    (ha : t.link.activity = .waiting) (hi : t.link.channel.outbound.items = f :: rest)
    (hf : Wire.encode f = .ok bytes) :
    Steps t .write { t with
      link := { t.link with channel := { t.link.channel with
        outbound := { t.link.channel.outbound with items := rest } } }
      unwritten := bytes }
  /-- Some of it goes out. -/
  | flushed (count : Nat) (ha : t.link.activity ≠ .ended) :
    Steps t (.flush count) { t with
      unwritten := t.unwritten.drop count
      written := t.written ++ t.unwritten.take count }
  /-- Some bytes have come in. -/
  | read (b : Bytes) (ha : t.link.activity = .waiting) :
    Steps t (.read b) { t with
      link := { t.link with decoder := t.link.decoder.extend b, activity := .decoding }
      received := t.received ++ b }
  /-- No more frames have come in. -/
  | waited (ha : t.link.activity = .decoding)
    (hnext : t.link.decoder.next = (.ok none, t.link.decoder)) :
    Steps t .work { t with link := { t.link with activity := .waiting } }
  /-- A frame has come in that carries no reply for the client. -/
  | passed (f : Frame) (d : Wire.Decoder) (ha : t.link.activity = .decoding)
    (hnext : t.link.decoder.next = (.ok (some f), d))
    (hf : f.replyFor? t.link.channel.localNode = none) :
    Steps t .work { t with link := { t.link with decoder := d } }
  /-- A frame has come in that does. -/
  | accepted (f : Frame) (r : Response) (d : Wire.Decoder) (ha : t.link.activity = .decoding)
    (hnext : t.link.decoder.next = (.ok (some f), d))
    (hf : f.replyFor? t.link.channel.localNode = some r) :
    Steps t .work { t with link := { t.link with decoder := d, activity := .delivering r } }
  /-- The task hands a reply to the client. -/
  | handed (r : Response) (ha : t.link.activity = .delivering r)
    (hreader : t.link.channel.inbound.hasReader = true) :
    Steps t .work { t with link := { t.link with
      channel := { t.link.channel with
        inbound := { t.link.channel.inbound with items := t.link.channel.inbound.items ++ [r] } }
      activity := .decoding } }
  /-- What has come in is no frame, and the task ends. -/
  | spoilt (e : Wire.CodecError) (d : Wire.Decoder) (ha : t.link.activity = .decoding)
    (hnext : t.link.decoder.next = (.error e, d)) :
    Steps t .work { t with link := { t.link with decoder := d }.finish }
  /-- Nobody takes the reply, and the task ends. -/
  | unwanted (r : Response) (ha : t.link.activity = .delivering r)
    (hgone : t.link.channel.inbound.hasReader = false ∨ t.link.channel.inbound.hasWriter = false) :
    Steps t .work { t with link := t.link.finish }
  /-- The task ends while it waits. -/
  | ended (e : LinkEvent) (he : e.frame? t.link.channel.localNode = none)
    (ha : t.link.activity = .waiting) : Steps t e { t with link := t.link.finish }
  /-- Nothing happens. -/
  | idle (e : LinkEvent) (he : e.frame? t.link.channel.localNode = none) : Steps t e t

theorem steps_step (t : Traffic) (e : LinkEvent) : t.Steps e (t.step e) := by
  cases e with
  | send r target =>
    rw [step]
    obtain ⟨hreader, hroom, hs⟩ | ⟨hfull, hs⟩ | ⟨reason, hs⟩ := t.link.channel.send_cases r target
    · rw [hs]
      exact .queued r target hreader hroom
    · rw [hs]
      exact .lost r target hfull
    · rw [hs]
      exact .refused r target reason
  | poll =>
    rw [step]
    cases hi : t.link.channel.inbound.items with
    | nil =>
      rw [Channel.poll_of_nil hi]
      simp only [Option.toList_none, List.append_nil]
      exact .found hi
    | cons r rest =>
      rw [Channel.poll_of_cons hi]
      exact .polled r rest hi
  | leave => exact .left
  | write =>
    rw [step]
    split
    · next hu =>
      split
      · next bytes link hw =>
        obtain ⟨ha, ⟨f, rest, hi, hf, rfl⟩ | ⟨rfl, rfl⟩⟩ := Link.write?_cases hw
        · exact .wrote f rest bytes hu ha hi hf
        · rw [← hu]
          exact .ended _ rfl ha
      · exact .idle _ rfl
    · exact .idle _ rfl
  | flush count =>
    rw [step]
    split
    · exact .idle _ rfl
    · next ha => exact .flushed count ha
  | read b =>
    rw [step]
    split
    · split
      · next link hr =>
        obtain ⟨ha, ⟨rfl, rfl⟩ | ⟨-, rfl⟩⟩ := Link.read?_eq_some hr
        · rw [List.append_nil]
          exact .ended _ rfl ha
        · exact .read b ha
      · exact .idle _ rfl
    · exact .idle _ rfl
  | work =>
    rw [step]
    split
    · next link hw =>
      obtain ⟨ha, ⟨hnext, rfl⟩ | ⟨f, d, hnext, rfl⟩ | ⟨e, d, hnext, rfl⟩⟩ |
        ⟨r, ha, ⟨hreader, rfl⟩ | ⟨hgone, rfl⟩⟩ := Link.work?_cases hw
      · exact .waited ha hnext
      · cases hf : f.replyFor? t.link.channel.localNode with
        | none =>
          rw [Link.accept_of_none (l := { t.link with decoder := d }) hf]
          exact .passed f d ha hnext hf
        | some r =>
          rw [Link.accept_of_some (l := { t.link with decoder := d }) hf]
          exact .accepted f r d ha hnext hf
      · exact .spoilt e d ha hnext
      · exact .handed r ha hreader
      · exact .unwanted r ha hgone
    · exact .idle _ rfl
  | fail =>
    rw [step]
    split
    · next ha => exact .ended _ rfl ha
    · exact .idle _ rfl

/-- What holds at first and is kept by every event of a run holds after it. -/
theorem run_induction_of_mem {P : Traffic → Prop} {t : Traffic} (h : P t)
    {events : List LinkEvent} (hstep : ∀ t t' e, e ∈ events → P t → Steps t e t' → P t') :
    P (t.run events) := by
  induction events generalizing t with
  | nil => exact h
  | cons e events ih =>
    refine ih (hstep t _ e List.mem_cons_self h (steps_step t e)) fun t t' e' hmem => ?_
    exact hstep t t' e' (List.mem_cons_of_mem e hmem)

/-- What holds at first and is kept by every event holds after every run. -/
theorem run_induction {P : Traffic → Prop} {t : Traffic} (h : P t)
    (hstep : ∀ t t' e, P t → Steps t e t' → P t') (events : List LinkEvent) : P (t.run events) :=
  run_induction_of_mem h fun t t' e _ => hstep t t' e

/-! ## The task's ends of the queues -/

/-- The task is at its ends of both queues exactly until it ends. -/
structure Joined (t : Traffic) : Prop where
  /-- The queue of requests has the places of a link's queue. -/
  capacity_eq : t.link.channel.outbound.capacity = linkDepth
  /-- The task takes requests out of it. -/
  hasReader_iff : t.link.channel.outbound.hasReader = true ↔ t.link.activity ≠ .ended
  /-- The task puts replies into the other one. -/
  hasWriter_iff : t.link.channel.inbound.hasWriter = true ↔ t.link.activity ≠ .ended

theorem Joined.of_eq {t t' : Traffic} (h : t.Joined)
    (hcapacity : t'.link.channel.outbound.capacity = t.link.channel.outbound.capacity)
    (hreader : t'.link.channel.outbound.hasReader = t.link.channel.outbound.hasReader)
    (hwriter : t'.link.channel.inbound.hasWriter = t.link.channel.inbound.hasWriter)
    (hactivity : t'.link.activity = .ended ↔ t.link.activity = .ended) : t'.Joined := by
  refine ⟨hcapacity.trans h.capacity_eq, ?_, ?_⟩
  · rw [hreader, h.hasReader_iff]
    exact not_congr hactivity.symm
  · rw [hwriter, h.hasWriter_iff]
    exact not_congr hactivity.symm

theorem Joined.of_finish {t : Traffic} (h : t.Joined) (d : Wire.Decoder) :
    Joined { t with link := { t.link with decoder := d }.finish } := by
  refine ⟨h.capacity_eq, ?_, ?_⟩
  · simp [Link.finish, Channel.dropTask, Queue.dropReader]
  · simp [Link.finish, Channel.dropTask, Queue.dropWriter]

theorem Joined.step {t t' : Traffic} {e : LinkEvent} (h : t.Joined) (hs : Steps t e t') :
    t'.Joined := by
  cases hs with
  | queued | lost | refused | polled | found | left | wrote | flushed | passed =>
    exact h.of_eq rfl rfl rfl .rfl
  | read _ ha => exact h.of_eq rfl rfl rfl (by simp [ha])
  | waited ha => exact h.of_eq rfl rfl rfl (by simp [ha])
  | accepted _ _ _ ha => exact h.of_eq rfl rfl rfl (by simp [ha])
  | handed _ ha => exact h.of_eq rfl rfl rfl (by simp [ha])
  | spoilt _ d => exact h.of_finish d
  | unwanted | ended => exact h.of_finish t.link.decoder
  | idle => exact h

theorem isClosed_step {t t' : Traffic} {e : LinkEvent} (h : t.link.channel.isClosed = true)
    (hs : Steps t e t') : t'.link.channel.isClosed = true := by
  cases hs with
  | found =>
    simp only [h]
    rfl
  | refused => rfl
  | _ => exact h

theorem isClosed_run {t : Traffic} (h : t.link.channel.isClosed = true) (events : List LinkEvent) :
    (t.run events).link.channel.isClosed = true :=
  run_induction (P := fun t => t.link.channel.isClosed = true) h (fun _ _ _ => isClosed_step) events

/-- A client that has been refused once is refused from then on. -/
theorem send_of_refused {t : Traffic} {r : SignedRequest} {target : UInt32} {e : TransportError}
    (h : (t.link.channel.send r target).1 = .error e) (events : List LinkEvent) (r' : SignedRequest)
    (target' : UInt32) :
    ((t.run (.send r target :: events)).link.channel.send r' target').1 =
      .error (.closed "link task ended") := by
  have hclosed : (t.step (.send r target)).link.channel.isClosed = true := Channel.isClosed_of_send h
  rw [run, List.foldl_cons, ← run, Channel.send_of_isClosed (isClosed_run hclosed events)]

/-- So is a client that has polled and found that no more replies will come. -/
theorem send_of_found_gone {t : Traffic} (hj : t.Joined) (ha : t.link.activity = .ended)
    (hi : t.link.channel.inbound.items = []) (events : List LinkEvent) (r : SignedRequest)
    (target : UInt32) :
    ((t.run (.poll :: events)).link.channel.send r target).1 =
      .error (.closed "link task ended") := by
  have hwriter : t.link.channel.inbound.hasWriter = false := by
    rw [← Bool.not_eq_true, hj.hasWriter_iff]
    exact not_not_intro ha
  have hclosed : (t.step .poll).link.channel.isClosed = true := by
    unfold step
    rw [Channel.poll_of_nil hi]
    simp only [hwriter, Bool.not_false, Bool.or_true]
  rw [run, List.foldl_cons, ← run, Channel.send_of_isClosed (isClosed_run hclosed events)]

/-! ## The record of what has been sent -/

end Traffic

end SignedControl
