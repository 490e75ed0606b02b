import SignedControl.Proofs.Link.Traffic

/-!
# What a decoder holds

Both ends of a stream read it in pieces and keep what is not yet a whole frame. A peer that means no
good may announce any length and send anything, in pieces of any size. Still neither end keeps much:
a length is looked at as soon as it is there, so that what is kept is less than the longest frame,
and all whole frames are taken out before more is read.

* `Decoder.length_of_next_none`: what is kept when there is no more whole frame.
* `Decoder.perform_drain`, `Decoder.length_drain`: taking the frames out comes to an end.
* `Decoder.Holds`: the bound, for a party that reads only when there is no more whole frame.
* `Circuit.Bounded.step`, `Traffic.Bounded.step`: the node is such a party, and so is a link.
* `Wire.backlog_bounded`: all together.
-/

namespace SignedControl

namespace Wire

/-- The greatest number of bytes that are less than a frame with its length. -/
def maxBacklog : Nat := maxFrameSize + lengthSize - 1

theorem length_of_incomplete {b : Bytes} (h : front b = .incomplete) : b.length ≤ maxBacklog := by
  unfold front at h
  split at h
  · dsimp only at h
    split at h
    · cases h
    · next hsize =>
      split at h
      · next hshort =>
        rw [List.length_take] at hshort
        simp only [List.length_cons, maxBacklog, lengthSize]
        omega
      · cases h
  · next hshort =>
    -- There are not even four bytes.
    rcases b with _ | ⟨b0, _ | ⟨b1, _ | ⟨b2, _ | ⟨b3, rest⟩⟩⟩⟩
    · exact Nat.zero_le _
    · exact (by decide : 1 ≤ maxBacklog)
    · exact (by decide : 2 ≤ maxBacklog)
    · exact (by decide : 3 ≤ maxBacklog)
    · exact absurd rfl (hshort b0 b1 b2 b3 rest)

namespace Decoder

variable {d d' : Decoder}

theorem length_of_next_none (h : d.next = (.ok none, d')) : d'.buffer.length ≤ maxBacklog := by
  obtain rfl := eq_of_next_none h
  obtain ⟨body, _, -, hnext⟩ | ⟨hfront, -⟩ | ⟨_, -, hnext⟩ := d'.next_cases
  · rw [h] at hnext
    cases hbody : decodeFrame body <;> rw [hbody] at hnext <;> cases hnext
  · exact length_of_incomplete hfront
  · cases h.symm.trans hnext

/-! ## Taking frames out -/

/-- Every frame that is taken out leaves less by its length at least. -/
theorem length_drain (d : Decoder) :
    lengthSize * d.drain.1.length + d.drain.2.buffer.length ≤ d.buffer.length := by
  fun_induction drain d with
  | case1 d item h items last hdrain ih =>
    have hnext : d.next = (callResult item, d.next.2) :=
      Prod.ext (frameGiven?_eq_some_iff.mp h) rfl
    have hstep := length_of_callResult hnext
    rw [hdrain] at ih
    dsimp only at ih ⊢
    rw [List.length_cons, Nat.mul_succ]
    omega
  | case2 d h => simpa using d.length_le_next

/-- After so many calls the next one gives no frame, because no more is complete or the length is
bad. -/
theorem perform_drain (d : Decoder) :
    ∃ last, d.perform (List.replicate (d.drain.1.length + 1) .next) =
        (d.drain.1.map callResult ++ [last], d.drain.2) ∧
      (last = .ok none ∨ ∃ size, last = .error (.invalidLength size)) := by
  fun_induction drain d with
  | case1 d item h items rest hdrain ih =>
    obtain ⟨last, hperform, hlast⟩ := ih
    have hnext : d.next = (callResult item, d.next.2) :=
      Prod.ext (frameGiven?_eq_some_iff.mp h) rfl
    rw [hdrain] at hperform
    refine ⟨last, ?_, hlast⟩
    rw [List.length_cons, List.replicate_succ, perform, hnext]
    dsimp only
    rw [hperform]
    rfl
  | case2 d h =>
    obtain ⟨body, rest, -, hnext⟩ | ⟨-, hnext⟩ | ⟨size, -, hnext⟩ := d.next_cases
    · rw [hnext, frameGiven?_eq_some_iff.mpr rfl] at h
      cases h
    · exact ⟨.ok none, by simp [perform, hnext], .inl rfl⟩
    · exact ⟨.error (.invalidLength size), by simp [perform, hnext], .inr ⟨size, rfl⟩⟩

/-! ## Parties that read -/

/-- The decoder of a party that reads at most `room` bytes at once, and only while it waits. -/
structure Holds (d : Decoder) (waits : Prop) (room : Nat) : Prop where
  /-- While it waits, the decoder holds less than a frame. -/
  waiting : waits → d.buffer.length ≤ maxBacklog
  /-- It never holds more than one reading besides. -/
  length_le : d.buffer.length ≤ maxBacklog + room

variable {waits waits' : Prop} {room : Nat}

theorem Holds.extend (h : d.Holds waits room) (hwaits : waits) {b : Bytes} (hb : b.length ≤ room)
    (hbusy : ¬ waits') : (d.extend b).Holds waits' room := by
  refine ⟨fun h' => absurd h' hbusy, ?_⟩
  have hle := h.waiting hwaits
  rw [Decoder.extend, List.length_append]
  omega

/-- Looking for a frame, and finding none or taking one out, keeps the bound. -/
theorem Holds.next (h : d.Holds waits room) {result : Except CodecError (Option Frame)}
    (hnext : d.next = (result, d')) (hwaits : waits' → result = .ok none) :
    d'.Holds waits' room := by
  refine ⟨fun h' => length_of_next_none (hwaits h' ▸ hnext), ?_⟩
  have hle := d.length_le_next
  rw [hnext] at hle
  exact Nat.le_trans hle h.length_le

theorem Holds.of_imp (h : d.Holds waits room) (hwaits : waits' → waits) : d.Holds waits' room :=
  ⟨fun h' => h.waiting (hwaits h'), h.length_le⟩

end Decoder

end Wire

/-! ## The node's end -/

namespace Circuit

/-- A node that has answered nothing, with any bytes on the stream to it. They may all be there from
the start, because a reading takes any part of what is there. -/
def facing (localNode : UInt32) (a : Authority) (stream : Bytes) : Circuit :=
  { new localNode a with toNode := stream }

/-- A node that waits for more bytes holds less than a frame, and no node holds more than it can
read at once besides. -/
def Bounded (c : Circuit) : Prop :=
  c.connection.decoder.Holds (c.isAnswering = false ∧ c.connection.status = .running) Node.readSize

theorem bounded_facing (localNode : UInt32) (a : Authority) (stream : Bytes) :
    (facing localNode a stream).Bounded := ⟨fun _ => Nat.zero_le _, Nat.zero_le _⟩

section Scheme

variable [SignatureScheme] {c : Circuit} {nodeId : UInt32}

theorem Bounded.receive (h : c.Bounded) (count : Nat) :
    (c.step nodeId (.receive count)).Bounded := by
  dsimp only [step]
  split
  · exact h
  · next hready =>
    simp only [Bool.or_eq_true, decide_eq_true_iff, not_or, Bool.not_eq_true,
      Decidable.not_not] at hready
    obtain ⟨⟨ha, hs⟩, -⟩ := hready
    refine Wire.Decoder.Holds.extend h ⟨ha, hs⟩ ?_ (by simp)
    exact Nat.le_trans (List.length_take_le _ _) (Nat.min_le_right _ _)

theorem Bounded.answer (h : c.Bounded) : (c.step nodeId .answer).Bounded := by
  dsimp only [step]
  split
  · exact h
  · rcases hnext : c.connection.decoder.next with ⟨e | _ | f, d⟩
    · rw [Node.serveNext_of_error hnext]
      exact Wire.Decoder.Holds.next h hnext fun hwaits => nomatch hwaits.2
    · rw [Node.serveNext_of_none hnext]
      exact Wire.Decoder.Holds.next h hnext fun _ => rfl
    · rw [Node.serveNext_of_some hnext]
      exact Wire.Decoder.Holds.next h hnext fun hwaits => nomatch hwaits.1

theorem Bounded.step (h : c.Bounded) (e : CircuitEvent) : (c.step nodeId e).Bounded := by
  cases e with
  | send r target => exact h
  | poll => exact h
  | write =>
    dsimp only [Circuit.step]
    split <;> exact h
  | read count =>
    dsimp only [Circuit.step]
    split
    · exact h
    · split <;> exact h
  | work =>
    dsimp only [Circuit.step]
    split <;> exact h
  | receive count => exact h.receive count
  | answer => exact h.answer

theorem Bounded.run (h : c.Bounded) (events : List CircuitEvent) :
    (c.run nodeId events).Bounded := by
  induction events generalizing c with
  | nil => exact h
  | cons e events ih => exact ih (h.step e)

end Scheme

end Circuit

/-! ## The link's end -/

namespace Traffic

/-- A link whose task waits holds less than a frame, and no link holds more than it can read at once
besides. -/
def Bounded (t : Traffic) : Prop :=
  t.link.decoder.Holds (t.link.activity = .waiting) Link.readSize

variable {t t' : Traffic} {e : LinkEvent}

theorem Bounded.step (h : t.Bounded) (he : ∀ b, e = .read b → b.length ≤ Link.readSize)
    (hs : Steps t e t') : t'.Bounded := by
  cases hs with
  | read b ha => exact Wire.Decoder.Holds.extend h ha (he b rfl) (by simp)
  | waited ha hnext => exact Wire.Decoder.Holds.next h hnext fun _ => rfl
  | passed f d ha hnext => exact Wire.Decoder.Holds.next h hnext fun hw => by simp [ha] at hw
  | accepted f r d ha hnext => exact Wire.Decoder.Holds.next h hnext nofun
  | spoilt e d ha hnext => exact Wire.Decoder.Holds.next h hnext nofun
  | handed | unwanted | ended => exact Wire.Decoder.Holds.of_imp h nofun
  | _ => exact h

theorem bounded_new (localNode : UInt32) : (new localNode).Bounded :=
  ⟨fun _ => Nat.zero_le _, Nat.zero_le _⟩

theorem Bounded.run (h : t.Bounded) {events : List LinkEvent}
    (hevents : ∀ b, .read b ∈ events → b.length ≤ Link.readSize) : (t.run events).Bounded :=
  run_induction_of_mem h fun _ _ _ hmem hp hs => hp.step (fun b he => hevents b (he ▸ hmem)) hs

end Traffic

/-! ## All together -/

/-- Whatever has been read, there are at most 65539 bytes left when a call says that no more frame
is complete, and a call that gives a frame, good or malformed, takes away 4 bytes at least. So calls
come to an end: after at most a quarter as many as there were bytes, one says that no more frame is
complete or that the length is bad. A node, which reads at most 4096 bytes at once, never holds more
than so many besides, whatever is on the stream to it and in whatever pieces it comes; neither does
a link, which reads at most 1024. -/
theorem Wire.backlog_bounded [SignatureScheme] :
    (∀ d d' : Decoder, d.next = (.ok none, d') → d'.buffer.length ≤ 65539) ∧
    (∀ (d d' : Decoder) item, d.next = (callResult item, d') →
      d'.buffer.length + 4 ≤ d.buffer.length) ∧
    (∀ d : Decoder, ∃ (given : List (Except DecodeError Frame))
        (last : Except CodecError (Option Frame)),
      (d.perform (List.replicate (given.length + 1) .next)).1 = given.map callResult ++ [last] ∧
        (last = .ok none ∨ ∃ size, last = .error (.invalidLength size)) ∧
        4 * given.length ≤ d.buffer.length) ∧
    (∀ nodeId localNode a stream events,
      ((Circuit.facing localNode a stream).run nodeId events).connection.decoder.buffer.length ≤
        65539 + 4096) ∧
    ∀ localNode events, (∀ b, .read b ∈ events → b.length ≤ 1024) →
      ((Traffic.new localNode).run events).link.decoder.buffer.length ≤ 65539 + 1024 := by
  refine ⟨fun d d' h => Decoder.length_of_next_none h, fun d d' item h =>
    Decoder.length_of_callResult h, fun d => ?_, fun nodeId localNode a stream events => ?_,
    fun localNode events hevents => ?_⟩
  · obtain ⟨last, hperform, hlast⟩ := d.perform_drain
    have hlength := d.length_drain
    exact ⟨d.drain.1, last, congrArg Prod.fst hperform, hlast,
      Nat.le_trans (Nat.le_add_right _ _) hlength⟩
  · exact ((Circuit.bounded_facing localNode a stream).run events).length_le
  · exact ((Traffic.bounded_new localNode).run hevents).length_le

/-- The greatest length, and then two whole readings of a frame that never ends. -/
def Traffic.unfinished : List LinkEvent :=
  [.read (Bytes.be32 65536), .work, .read (List.replicate Link.readSize 0), .work,
    .read (List.replicate Link.readSize 0)]

theorem Wire.backlog_bounded_unfinished :
    ((Traffic.new 100).run Traffic.unfinished).link.decoder.buffer.length = 2052 ∧
      ((Traffic.new 100).run Traffic.unfinished).link.decoder.buffer.length ≤ 65539 + 1024 := by
  refine ⟨by decide +kernel, backlog_bounded.2.2.2.2 100 Traffic.unfinished fun b hb => ?_⟩
  have hpieces : b = Bytes.be32 65536 ∨ b = List.replicate Link.readSize 0 := by
    simpa [Traffic.unfinished] using hb
  rcases hpieces with rfl | rfl
  · decide
  · exact Nat.le_of_eq List.length_replicate

end SignedControl
