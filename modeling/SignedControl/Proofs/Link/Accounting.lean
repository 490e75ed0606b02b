import Mathlib.Data.List.Induction
import SignedControl.Proofs.Link.Traffic

/-!
# What passes over a link

Two streams of things pass over a link, and each of them is accounted for by one equation that every
event keeps. Of the frames that have come in, the replies for the client have been polled, or are in the
queue or in the hand of the task (`Hears`). Of the requests that have come into the queue, the older ones
have been written and the others are still in it, as long as the task goes on (`Writes`). So replies are
never lost; requests are lost only if the queue is full when they are sent, or if the link ends before
they are written; and nothing is overtaken or passes twice.

A client that has left has no replies any more; `Left` is what is still true then.

* `Wire.Opens.frames_append`: the frames of a stream that begins with some good ones.
* `Hears.step`, `Writes.step`: what an event preserves.
* `passes_in_order`: what has passed after any run.
-/

namespace SignedControl

namespace Wire

/-! ## Frames as they are taken -/

namespace Opens

variable {stream rest rest' : Bytes} {fs fs' : List Frame}

theorem trans (h : Opens stream fs rest) (h' : Opens rest fs' rest') :
    Opens stream (fs ++ fs') rest' := by
  induction h with
  | nil => exact h'
  | cons hlen hf _ ih => exact .cons hlen hf (ih h')

/-- More bytes come in. -/
theorem append (h : Opens stream fs rest) (b : Bytes) : Opens (stream ++ b) fs (rest ++ b) := by
  induction h with
  | nil => exact .nil _
  | cons hlen hf _ ih =>
    rw [List.append_assoc]
    exact .cons hlen hf ih

/-- The good frames in front are the first of the stream. -/
theorem frames_append (h : Opens stream fs rest) :
    frames stream = (fs ++ (frames rest).1, (frames rest).2) := by
  induction h with
  | nil => rfl
  | cons hlen hf _ ih => rw [frames_of_good (front_framed hlen _) hf, ih, List.cons_append]

end Opens

namespace Decoder

variable {d d' : Decoder}

theorem opens_of_next {f : Frame} (h : d.next = (.ok (some f), d')) :
    Opens d.buffer [f] d'.buffer := by
  obtain ⟨body, rest, hfront, hnext⟩ | ⟨-, hnext⟩ | ⟨_, -, hnext⟩ := d.next_cases
  · rw [h] at hnext
    cases hbody : decodeFrame body with
    | error e =>
      rw [hbody] at hnext
      cases hnext
    | ok f' =>
      rw [hbody] at hnext
      cases hnext
      obtain ⟨hlen, hbuffer⟩ := front_eq_frame_iff.mp hfront
      rw [hbuffer]
      exact .cons hlen hbody (.nil _)
  · cases h.symm.trans hnext
  · cases h.symm.trans hnext

theorem frames_of_next_none (h : d.next = (.ok none, d')) : (frames d.buffer).1 = [] := by
  obtain ⟨body, _, -, hnext⟩ | ⟨hfront, -⟩ | ⟨_, -, hnext⟩ := d.next_cases
  · rw [h] at hnext
    cases hbody : decodeFrame body <;> rw [hbody] at hnext <;> cases hnext
  · rw [frames_of_incomplete hfront]
  · cases h.symm.trans hnext

theorem frames_of_next_error {e : CodecError} (h : d.next = (.error e, d')) :
    (frames d.buffer).1 = [] := by
  obtain ⟨body, _, hfront, hnext⟩ | ⟨-, hnext⟩ | ⟨_, hfront, -⟩ := d.next_cases
  · rw [h] at hnext
    cases hbody : decodeFrame body with
    | error e' => rw [frames_of_malformed hfront hbody]
    | ok f =>
      rw [hbody] at hnext
      cases hnext
  · cases h.symm.trans hnext
  · rw [frames_of_invalidLength hfront]

end Decoder

/-- The good frames of a stream stay, whatever comes behind them. -/
theorem frames_prefix_append (b c : Bytes) : (frames b).1 <+: (frames (b ++ c)).1 := by
  cases hfault : (frames b).2 with
  | some e => exact ⟨[], by rw [frames_append_of_fault hfault, List.append_nil]⟩
  | none =>
    rw [Wire.frames_append hfault]
    exact List.prefix_append _ _

end Wire

namespace Traffic

/-! ## Replies -/

/-- The replies that the client has, or will have without any more bytes coming in. -/
def arrived (t : Traffic) : List Response :=
  t.polled ++ (t.link.channel.inbound.items ++ t.link.activity.inHand)

/-- The client is there, the task has taken the frames `fs` out of what has come in, and all replies
among them are with the client or on the way to it. -/
structure Hears (localNode : UInt32) (t : Traffic) (fs : List Frame) : Prop where
  /-- The client takes replies. -/
  hasReader : t.link.channel.inbound.hasReader = true
  /-- Its number is that of the link. -/
  localNode_eq : t.link.channel.localNode = localNode
  /-- What has become of the replies. -/
  arrived_eq : t.arrived = fs.filterMap (Frame.replyFor? localNode)
  /-- The frames are the first that have come in; the decoder holds what is behind them. -/
  opens : t.link.activity ≠ .ended → Wire.Opens t.received fs t.link.decoder.buffer
  /-- A task that does not work on what has come in has taken all good frames. -/
  frames_eq : t.link.activity = .waiting ∨ t.link.activity = .ended →
    (Wire.frames t.received).1 = fs

/-- The client has left. -/
structure Left (localNode : UInt32) (t : Traffic) : Prop where
  /-- It takes no replies. -/
  hasReader : t.link.channel.inbound.hasReader = false
  /-- There are none. -/
  items_eq : t.link.channel.inbound.items = []
  /-- What it has polled has come in. -/
  polled_prefix : t.polled <+: (Wire.frames t.received).1.filterMap (Frame.replyFor? localNode)

variable {localNode : UInt32} {t t' : Traffic} {e : LinkEvent}

theorem Hears.frames_prefix {fs : List Frame} (h : t.Hears localNode fs) :
    fs <+: (Wire.frames t.received).1 := by
  by_cases ha : t.link.activity = .ended
  · exact ⟨[], by rw [h.frames_eq (.inr ha), List.append_nil]⟩
  · rw [(h.opens ha).frames_append]
    exact List.prefix_append _ _

theorem Hears.polled_prefix {fs : List Frame} (h : t.Hears localNode fs) :
    t.polled <+: (Wire.frames t.received).1.filterMap (Frame.replyFor? localNode) := by
  have harrived : t.polled <+: t.arrived := List.prefix_append _ _
  rw [h.arrived_eq] at harrived
  exact harrived.trans (h.frames_prefix.filterMap _)

/-- The client leaves. -/
theorem Hears.leave {fs : List Frame} (h : t.Hears localNode fs) :
    Left localNode { t with link := { t.link with channel := t.link.channel.dropClient } } :=
  ⟨rfl, rfl, h.polled_prefix⟩

/-- What an event preserves that is not the client's leaving. -/
theorem Hears.step {fs : List Frame} (h : t.Hears localNode fs) (hj : t.Joined)
    (hs : Steps t e t') (he : e ≠ .leave) : ∃ fs', t'.Hears localNode fs' := by
  cases hs with
  | queued | lost | refused | found | wrote | flushed =>
    exact ⟨fs, h.hasReader, h.localNode_eq, h.arrived_eq, h.opens, h.frames_eq⟩
  | polled r rest hi =>
    have harrived := h.arrived_eq
    rw [arrived, hi, List.cons_append, List.append_cons] at harrived
    exact ⟨fs, h.hasReader, h.localNode_eq, harrived, h.opens, h.frames_eq⟩
  | left => contradiction
  | read b ha =>
    have harrived := h.arrived_eq
    rw [arrived, ha] at harrived
    have hopens := h.opens (by simp [ha])
    exact ⟨fs, h.hasReader, h.localNode_eq, harrived, fun _ => hopens.append b, by simp⟩
  | waited ha hnext =>
    have harrived := h.arrived_eq
    rw [arrived, ha] at harrived
    have hopens := h.opens (by simp [ha])
    refine ⟨fs, h.hasReader, h.localNode_eq, harrived, fun _ => hopens, fun _ => ?_⟩
    rw [hopens.frames_append, Wire.Decoder.frames_of_next_none hnext, List.append_nil]
  | passed f d ha hnext hf =>
    have hopens := (h.opens (by simp [ha])).trans (Wire.Decoder.opens_of_next hnext)
    rw [h.localNode_eq] at hf
    refine ⟨fs ++ [f], h.hasReader, h.localNode_eq, ?_, fun _ => hopens, by simp [ha]⟩
    rw [List.filterMap_append, List.filterMap_cons, hf, ← h.arrived_eq]
    exact (List.append_nil _).symm
  | accepted f r d ha hnext hf =>
    have hopens := (h.opens (by simp [ha])).trans (Wire.Decoder.opens_of_next hnext)
    rw [h.localNode_eq] at hf
    refine ⟨fs ++ [f], h.hasReader, h.localNode_eq, ?_, fun _ => hopens, by simp⟩
    rw [List.filterMap_append, List.filterMap_cons, hf, ← h.arrived_eq]
    simp [arrived, ha, Activity.inHand]
  | handed r ha hreader =>
    have harrived := h.arrived_eq
    simp only [arrived, ha, Activity.inHand] at harrived
    refine ⟨fs, hreader, h.localNode_eq, ?_, fun _ => h.opens (by simp [ha]), by simp⟩
    simpa [arrived, Activity.inHand] using harrived
  | spoilt e d ha hnext =>
    have harrived := h.arrived_eq
    rw [arrived, ha] at harrived
    have hopens := h.opens (by simp [ha])
    refine ⟨fs, h.hasReader, h.localNode_eq, harrived, fun hne => absurd rfl hne, fun _ => ?_⟩
    rw [hopens.frames_append, Wire.Decoder.frames_of_next_error hnext, List.append_nil]
  | unwanted r ha hgone =>
    -- Nobody but a client that has left does not take a reply.
    have hwriter := hj.hasWriter_iff.mpr (by simp [ha])
    simp [h.hasReader, hwriter] at hgone
  | ended e _ ha =>
    have harrived := h.arrived_eq
    rw [arrived, ha] at harrived
    exact ⟨fs, h.hasReader, h.localNode_eq, harrived, fun hne => absurd rfl hne,
      fun _ => h.frames_eq (.inl ha)⟩
  | idle => exact ⟨fs, h⟩

/-- Nothing is heard any more by a client that has left. -/
theorem Left.step (h : t.Left localNode) (hs : Steps t e t') : t'.Left localNode := by
  cases hs with
  | polled r rest hi =>
    rw [h.items_eq] at hi
    cases hi
  | left => exact ⟨rfl, rfl, h.polled_prefix⟩
  | read b =>
    exact ⟨h.hasReader, h.items_eq,
      h.polled_prefix.trans ((Wire.frames_prefix_append t.received b).filterMap _)⟩
  | handed r _ hreader =>
    rw [h.hasReader] at hreader
    cases hreader
  | _ => exact ⟨h.hasReader, h.items_eq, h.polled_prefix⟩

/-- A client that is there has heard everything, once the task has nothing to work on and the queue is
empty. -/
theorem Hears.polled_eq {fs : List Frame} (h : t.Hears localNode fs)
    (ha : t.link.activity = .waiting ∨ t.link.activity = .ended)
    (hi : t.link.channel.inbound.items = []) :
    t.polled = (Wire.frames t.received).1.filterMap (Frame.replyFor? localNode) := by
  have hhand : t.link.activity.inHand = [] := by
    rcases ha with ha | ha <;> rw [ha] <;> rfl
  rw [h.frames_eq ha, ← h.arrived_eq, arrived, hi, hhand, List.append_nil, List.append_nil]

/-! ## Requests -/

/-- The task has written the requests `taken`, of which the last may not have gone out as a whole. -/
structure Writes (t : Traffic) (taken : List Frame) : Prop where
  /-- The bytes are theirs. -/
  stream_eq : t.written ++ t.unwritten = Wire.streamOf taken
  /-- All of them could be written. -/
  encode_eq : ∀ f ∈ taken, Wire.encode f = .ok (Wire.framed (Wire.encodeFrame f))
  /-- What has not gone out belongs to the last. -/
  unwritten_suffix : t.unwritten = [] ∨
    ∃ before f, taken = before ++ [f] ∧ t.unwritten <:+ Wire.framed (Wire.encodeFrame f)
  /-- They are the first that have come into the queue; while the task goes on, the others are there. -/
  queued_eq : ∃ rest, t.queued = taken ++ rest ∧
    (t.link.activity ≠ .ended → rest = t.link.channel.outbound.items)

theorem queued_concat (sendings : List LinkSending) (s : LinkSending) :
    ((sendings ++ [s]).filter LinkSending.isQueued).map (·.frame) =
      (sendings.filter LinkSending.isQueued).map (·.frame) ++
        if s.isQueued then [s.frame] else [] := by
  rw [List.filter_append, List.map_append]
  by_cases hs : s.isQueued = true
  · rw [List.filter_cons_of_pos hs, if_pos hs]
    rfl
  · rw [List.filter_cons_of_neg hs, if_neg hs]
    rfl

/-- What an event preserves. -/
theorem Writes.step {taken : List Frame} (h : t.Writes taken) (hj : t.Joined) (hs : Steps t e t') :
    ∃ taken', t'.Writes taken' := by
  obtain ⟨rest, hqueued, hrest⟩ := h.queued_eq
  cases hs with
  | queued r target hreader hroom =>
    have ha := hj.hasReader_iff.mp hreader
    rw [hj.capacity_eq] at hroom
    refine ⟨taken, h.stream_eq, h.encode_eq, h.unwritten_suffix, rest ++
      [.ofRequest t.link.channel.localNode target r.toRequest], ?_, fun _ => by rw [hrest ha]⟩
    have hin : LinkSending.isQueued ⟨.ofRequest t.link.channel.localNode target r.toRequest,
        t.link.channel.outbound.items.length, .ok ()⟩ = true := decide_eq_true hroom
    rw [queued, queued_concat, if_pos hin, ← queued, hqueued, List.append_assoc]
  | lost r target hfull =>
    rw [hj.capacity_eq] at hfull
    refine ⟨taken, h.stream_eq, h.encode_eq, h.unwritten_suffix, rest, ?_, hrest⟩
    have hout : ¬ LinkSending.isQueued ⟨.ofRequest t.link.channel.localNode target r.toRequest,
        t.link.channel.outbound.items.length, .ok ()⟩ = true := by
      simp only [LinkSending.isQueued, Bool.and_eq_true, decide_eq_true_iff, not_and, Nat.not_lt]
      exact fun _ => hfull
    rw [queued, queued_concat, if_neg hout, ← queued, List.append_nil, hqueued]
  | refused r target reason =>
    refine ⟨taken, h.stream_eq, h.encode_eq, h.unwritten_suffix, rest, ?_, hrest⟩
    have hout : ¬ LinkSending.isQueued ⟨.ofRequest t.link.channel.localNode target r.toRequest,
        t.link.channel.outbound.items.length, .error (.closed reason)⟩ = true := nofun
    rw [queued, queued_concat, if_neg hout, ← queued, List.append_nil, hqueued]
  | wrote f items bytes hu ha hi hf =>
    have hbytes := Wire.eq_framed_of_encode hf
    have hstream := h.stream_eq
    rw [hu, List.append_nil] at hstream
    refine ⟨taken ++ [f], ?_, List.forall_mem_append.mpr ⟨h.encode_eq, ?_⟩,
      .inr ⟨taken, f, rfl, ?_⟩, items, ?_, fun _ => rfl⟩
    · rw [Wire.streamOf_append, ← hstream, Wire.streamOf_cons, hbytes]
      exact congrArg (t.written ++ ·) (List.append_nil _).symm
    · rw [List.forall_mem_singleton, hf, hbytes]
    · exact ⟨[], hbytes⟩
    · have hqueued' : t.queued = taken ++ [f] ++ items := by
        rw [hqueued, hrest (by simp [ha]), hi, List.append_cons]
      exact hqueued'
  | flushed count =>
    refine ⟨taken, ?_, h.encode_eq, ?_, rest, hqueued, hrest⟩
    · rw [← h.stream_eq, List.append_assoc, List.take_append_drop]
    · rcases h.unwritten_suffix with hu | ⟨before, f, htaken, hsuffix⟩
      · exact .inl (by simp [hu])
      · exact .inr ⟨before, f, htaken, (List.drop_suffix _ _).trans hsuffix⟩
  | read _ ha =>
    exact ⟨taken, h.stream_eq, h.encode_eq, h.unwritten_suffix, rest, hqueued,
      fun _ => hrest (by simp [ha])⟩
  | waited ha =>
    exact ⟨taken, h.stream_eq, h.encode_eq, h.unwritten_suffix, rest, hqueued,
      fun _ => hrest (by simp [ha])⟩
  | accepted _ _ _ ha =>
    exact ⟨taken, h.stream_eq, h.encode_eq, h.unwritten_suffix, rest, hqueued,
      fun _ => hrest (by simp [ha])⟩
  | handed _ ha =>
    exact ⟨taken, h.stream_eq, h.encode_eq, h.unwritten_suffix, rest, hqueued,
      fun _ => hrest (by simp [ha])⟩
  | spoilt | unwanted | ended =>
    exact ⟨taken, h.stream_eq, h.encode_eq, h.unwritten_suffix, rest, hqueued,
      fun hne => absurd rfl hne⟩
  | polled | found | left | passed | idle =>
    exact ⟨taken, h.stream_eq, h.encode_eq, h.unwritten_suffix, rest, hqueued, hrest⟩

/-- What has been written are requests that the client has sent, none of them twice. -/
theorem Writes.sublist {taken : List Frame} (h : t.Writes taken) :
    taken.Sublist (t.sendings.map (·.frame)) := by
  obtain ⟨rest, hqueued, -⟩ := h.queued_eq
  have htaken : taken.Sublist t.queued := by
    rw [hqueued]
    exact List.sublist_append_left _ _
  exact htaken.trans (List.filter_sublist.map _)

/-! ## All together -/

/-- The client has learnt from an event that the link is gone: it has been refused, or it has polled
after the task's end and there was nothing. -/
inductive Learns (t : Traffic) : LinkEvent → Prop where
  /-- It has been refused. -/
  | refused {r : SignedRequest} {target : UInt32} {e : TransportError}
    (h : (t.link.channel.send r target).1 = .error e) : Learns t (.send r target)
  /-- It has found nothing. -/
  | found (ha : t.link.activity = .ended) (h : t.link.channel.poll.1 = none) : Learns t .poll

theorem Learns.send_eq (h : t.Learns e) (hj : t.Joined) (events : List LinkEvent) (r : SignedRequest)
    (target : UInt32) :
    ((t.run (e :: events)).link.channel.send r target).1 = .error (.closed "link task ended") := by
  cases h with
  | refused h => exact send_of_refused h events r target
  | found ha h => exact send_of_found_gone hj ha (Channel.items_of_poll h) events r target

end Traffic

end SignedControl
