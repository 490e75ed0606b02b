import SignedControl.Proofs.Wire.RoundTrip

/-!
# A stream read in pieces

A stream is made of whole frames, each behind its length, and of a rest that begins with none:
either it is too short or its length is bad. More bytes at the end of a stream leave the frames that
it has as they are, so what a decoder gives, called after every read until it has no more, are the
frames of the whole stream, wherever the reads have cut it.

* `front_eq_frame_iff`: what it is to have a whole frame in front.
* `items_append`: the frames of a stream that goes on.
* `Decoder.feed_eq_items`: reading in pieces gives the frames of the whole.
* `Decoder.feed_independent_of_cut`: every cut of a stream gives its frames one by one, each read
  from its own bytes; what single calls take away.
-/

namespace SignedControl.Wire

/-! ## The frames of a stream -/

/-- The bytes of a frame with their length in front. -/
def framed (body : Bytes) : Bytes := Bytes.be32 (UInt32.ofNat body.length) ++ body

theorem front_framed {body : Bytes} (h : body.length ≤ maxFrameSize) (rest : Bytes) :
    front (framed body ++ rest) = .frame body rest := by
  rw [framed, List.append_assoc, front_frame h]

/-- A whole frame stands in front exactly if the stream begins with its length and its bytes. -/
theorem front_eq_frame_iff {b body rest : Bytes} :
    front b = .frame body rest ↔ body.length ≤ maxFrameSize ∧ b = framed body ++ rest := by
  constructor
  · intro h
    unfold front at h
    split at h
    · next b0 b1 b2 b3 stream =>
      simp only at h
      split at h
      · cases h
      · next hsize =>
        split at h
        · cases h
        · next hwhole =>
          cases h
          have hlen : (stream.take (Bytes.ofBE32 b0 b1 b2 b3).toNat).length =
              (Bytes.ofBE32 b0 b1 b2 b3).toNat := by
            rw [List.length_take] at hwhole ⊢
            omega
          have hhead : Bytes.be32 (Bytes.ofBE32 b0 b1 b2 b3) = [b0, b1, b2, b3] := by
            rw [Bytes.be32, Bytes.ofBE32, Bytes.le32_ofLE32]
            rfl
          refine ⟨by omega, ?_⟩
          rw [framed, hlen, UInt32.ofNat_toNat, hhead, List.append_assoc, List.take_append_drop]
          rfl
    · cases h
  · rintro ⟨h, rfl⟩
    exact front_framed h rest

theorem front_append_of_frame {b body rest : Bytes} (h : front b = .frame body rest) (c : Bytes) :
    front (b ++ c) = .frame body (rest ++ c) := by
  obtain ⟨hlen, rfl⟩ := front_eq_frame_iff.mp h
  rw [List.append_assoc, front_framed hlen]

/-- A bad length is bad whatever comes behind it. -/
theorem front_append_of_invalidLength {b : Bytes} {size : UInt32}
    (h : front b = .invalidLength size) (c : Bytes) : front (b ++ c) = .invalidLength size := by
  unfold front at h
  split at h
  · simp only at h
    split at h
    · next hsize =>
      cases h
      simp only [List.cons_append, front]
      rw [if_pos hsize]
    · split at h <;> cases h
  · cases h

theorem items_of_frame {b body rest : Bytes} (h : front b = .frame body rest) :
    items b = (decodeFrame body :: (items rest).1, (items rest).2) := by
  rw [items]
  split
  · next body' rest' h' => cases h.symm.trans h'; rfl
  · next hno => exact absurd h (hno body rest)

theorem items_of_ne_frame {b : Bytes} (h : ∀ body rest, front b ≠ .frame body rest) :
    items b = ([], b) := by
  rw [items]
  split
  · next body rest h' => exact absurd h' (h body rest)
  · rfl

theorem items_nil : items [] = ([], []) := by
  apply items_of_ne_frame
  rintro body rest ⟨⟩

/-- More bytes at the end leave the frames as they are and complete what is left. -/
theorem items_append (b c : Bytes) :
    items (b ++ c) =
      ((items b).1 ++ (items ((items b).2 ++ c)).1, (items ((items b).2 ++ c)).2) := by
  fun_induction items b with
  | case1 b body rest h others left hrest ih =>
    rw [items_of_frame (front_append_of_frame h c), ih, hrest]
    rfl
  | case2 => rfl

/-- A stream made of the frames `bodies` and of `left`, which begins with no whole frame. -/
structure Framing (stream : Bytes) (bodies : List Bytes) (left : Bytes) : Prop where
  /-- No frame is too long. -/
  length_le : ∀ body ∈ bodies, body.length ≤ maxFrameSize
  /-- They stand one behind the other. -/
  stream_eq : stream = (bodies.map framed).flatten ++ left
  /-- There are no more. -/
  front_ne : ∀ body rest, front left ≠ .frame body rest

theorem items_framed {bodies : List Bytes} (h : ∀ body ∈ bodies, body.length ≤ maxFrameSize)
    (rest : Bytes) : items ((bodies.map framed).flatten ++ rest) =
      (bodies.map decodeFrame ++ (items rest).1, (items rest).2) := by
  induction bodies with
  | nil => rfl
  | cons body bodies ih =>
    obtain ⟨hbody, hbodies⟩ := List.forall_mem_cons.mp h
    rw [List.map_cons, List.flatten_cons, List.append_assoc,
      items_of_frame (front_framed hbody _), ih hbodies]
    rfl

theorem Framing.items_eq {stream left : Bytes} {bodies : List Bytes}
    (h : Framing stream bodies left) : items stream = (bodies.map decodeFrame, left) := by
  rw [h.stream_eq, items_framed h.length_le, items_of_ne_frame h.front_ne, List.append_nil]

theorem exists_framing (stream : Bytes) : ∃ bodies, Framing stream bodies (items stream).2 := by
  fun_induction items stream with
  | case1 b body rest h others left hrest ih =>
    obtain ⟨bodies, hbodies⟩ := ih
    rw [hrest] at hbodies
    obtain ⟨hlen, rfl⟩ := front_eq_frame_iff.mp h
    refine ⟨body :: bodies, List.forall_mem_cons.mpr ⟨hlen, hbodies.length_le⟩, ?_,
      hbodies.front_ne⟩
    rw [hbodies.stream_eq, List.map_cons, List.flatten_cons, List.append_assoc]
  | case2 b hno => exact ⟨[], nofun, rfl, hno⟩

/-- What is left of a stream has no frames any more. -/
theorem items_left (b : Bytes) : items (items b).2 = ([], (items b).2) := by
  obtain ⟨_, h⟩ := exists_framing b
  exact items_of_ne_frame h.front_ne

/-! ## Calls of a decoder -/

/-- What a call gives for a whole frame. -/
def callResult : Except DecodeError Frame → Except CodecError (Option Frame)
  | .ok f => .ok (some f)
  | .error e => .error (.decode e)

/-- The frame, good or malformed, that a call has given, if it has given one. -/
def frameGiven? : Except CodecError (Option Frame) → Option (Except DecodeError Frame)
  | .ok (some f) => some (.ok f)
  | .error (.decode e) => some (.error e)
  | _ => none

theorem frameGiven?_eq_some_iff {result : Except CodecError (Option Frame)}
    {item : Except DecodeError Frame} : frameGiven? result = some item ↔ result = callResult item := by
  constructor
  · intro h
    unfold frameGiven? at h
    split at h <;> cases h <;> rfl
  · rintro rfl
    cases item <;> rfl

/-- What is done with a decoder. -/
inductive DecoderCall where
  /-- More bytes have been read. -/
  | extend (b : Bytes)
  /-- The next frame is asked for. -/
  | next

namespace Decoder

theorem next_of_frame {d : Decoder} {body rest : Bytes} (h : front d.buffer = .frame body rest) :
    d.next = (callResult (decodeFrame body), ⟨rest⟩) := by
  rw [next, decode, h]
  cases hbody : decodeFrame body <;> simp only [hbody, callResult]

theorem next_of_incomplete {d : Decoder} (h : front d.buffer = .incomplete) :
    d.next = (.ok none, d) := by
  rw [next, decode, h]

theorem next_of_invalidLength {d : Decoder} {size : UInt32}
    (h : front d.buffer = .invalidLength size) : d.next = (.error (.invalidLength size), d) := by
  rw [next, decode, h]

/-- All that a call can do. -/
theorem next_cases (d : Decoder) :
    (∃ body rest, front d.buffer = .frame body rest ∧
      d.next = (callResult (decodeFrame body), ⟨rest⟩)) ∨
    (front d.buffer = .incomplete ∧ d.next = (.ok none, d)) ∨
    ∃ size, front d.buffer = .invalidLength size ∧
      d.next = (.error (.invalidLength size), d) := by
  cases h : front d.buffer with
  | frame body rest => exact .inl ⟨body, rest, rfl, next_of_frame h⟩
  | incomplete => exact .inr (.inl ⟨rfl, next_of_incomplete h⟩)
  | invalidLength size => exact .inr (.inr ⟨size, rfl, next_of_invalidLength h⟩)

/-- A call that gives a frame, good or malformed, takes away its length and its bytes, and reads
nothing else. -/
theorem next_eq_callResult {d d' : Decoder} {item : Except DecodeError Frame}
    (h : d.next = (callResult item, d')) :
    ∃ body, d.buffer = framed body ++ d'.buffer ∧ item = decodeFrame body ∧
      ∀ rest, next ⟨framed body ++ rest⟩ = (callResult item, ⟨rest⟩) := by
  obtain ⟨body, rest, hfront, hnext⟩ | ⟨-, hnext⟩ | ⟨size, -, hnext⟩ := d.next_cases
  · rw [h, Prod.mk.injEq] at hnext
    obtain ⟨hresult, rfl⟩ := hnext
    have hitem : item = decodeFrame body := by
      revert hresult
      cases item <;> cases decodeFrame body <;> simp [callResult]
    obtain ⟨hlen, hbuffer⟩ := front_eq_frame_iff.mp hfront
    refine ⟨body, hbuffer, hitem, fun rest' => ?_⟩
    rw [next_of_frame (front_framed hlen rest'), hitem]
  · rw [h] at hnext
    cases item <;> cases hnext
  · rw [h] at hnext
    cases item <;> cases hnext

theorem eq_of_next_none {d d' : Decoder} (h : d.next = (.ok none, d')) : d' = d := by
  obtain ⟨body, _, -, hnext⟩ | ⟨-, hnext⟩ | ⟨_, -, hnext⟩ := d.next_cases
  · rw [h] at hnext
    cases hbody : decodeFrame body <;> rw [hbody] at hnext <;> cases hnext
  · cases h.symm.trans hnext; rfl
  · cases h.symm.trans hnext

theorem front_of_next_invalidLength {d d' : Decoder} {size : UInt32}
    (h : d.next = (.error (.invalidLength size), d')) :
    d' = d ∧ front d.buffer = .invalidLength size := by
  obtain ⟨body, _, -, hnext⟩ | ⟨-, hnext⟩ | ⟨_, hfront, hnext⟩ := d.next_cases
  · rw [h] at hnext
    cases hbody : decodeFrame body <;> rw [hbody] at hnext <;> cases hnext
  · cases h.symm.trans hnext
  · cases h.symm.trans hnext; exact ⟨rfl, hfront⟩

/-- The results of calls one after another, and the decoder after them. -/
def perform (d : Decoder) : List DecoderCall → List (Except CodecError (Option Frame)) × Decoder
  | [] => ([], d)
  | .extend b :: calls => (d.extend b).perform calls
  | .next :: calls =>
    let (result, d) := d.next
    let (results, d) := d.perform calls
    (result :: results, d)

/-- The bytes that are read in calls. -/
def bytesRead : List DecoderCall → Bytes
  | [] => []
  | .extend b :: calls => b ++ bytesRead calls
  | .next :: calls => bytesRead calls

/-- A bad length is there for good: every later call gives it again, and nothing is taken away. -/
theorem perform_of_invalidLength {d : Decoder} {size : UInt32}
    (h : front d.buffer = .invalidLength size) (calls : List DecoderCall) :
    (∀ result ∈ (d.perform calls).1, result = .error (.invalidLength size)) ∧
      (d.perform calls).2 = d.extend (bytesRead calls) := by
  induction calls generalizing d with
  | nil => exact ⟨nofun, by simp [perform, bytesRead, extend]⟩
  | cons call calls ih =>
    cases call with
    | extend b =>
      obtain ⟨hresults, hd⟩ := ih (d := d.extend b) (front_append_of_invalidLength h b)
      refine ⟨hresults, ?_⟩
      rw [perform, hd]
      simp only [extend, bytesRead, List.append_assoc]
    | next =>
      obtain ⟨hresults, hd⟩ := ih h
      simp only [perform, next_of_invalidLength h, bytesRead, hd, and_true]
      exact List.forall_mem_cons.mpr ⟨rfl, hresults⟩

/-! ## Pieces -/

/-- A call that gives a frame takes away its length at least. -/
theorem length_of_callResult {d d' : Decoder} {item : Except DecodeError Frame}
    (h : d.next = (callResult item, d')) :
    d'.buffer.length + lengthSize ≤ d.buffer.length := by
  obtain ⟨body, hbuffer, -⟩ := next_eq_callResult h
  rw [hbuffer, framed, List.length_append, List.length_append, Bytes.length_be32, lengthSize]
  omega

theorem length_lt_of_callResult {d d' : Decoder} {item : Except DecodeError Frame}
    (h : d.next = (callResult item, d')) : d'.buffer.length < d.buffer.length :=
  Nat.lt_of_lt_of_le (Nat.lt_add_of_pos_right (by decide)) (length_of_callResult h)

/-- The frames, good and malformed, that calls give until one gives none, because no more is
complete or the length is bad, and the decoder after that call. -/
def drain (d : Decoder) : List (Except DecodeError Frame) × Decoder :=
  match _h : frameGiven? d.next.1 with
  | some item =>
    let (items, last) := drain d.next.2
    (item :: items, last)
  | none => ([], d.next.2)
termination_by d.buffer.length
decreasing_by exact length_lt_of_callResult (Prod.ext (frameGiven?_eq_some_iff.mp _h) rfl)

/-- Calling a decoder until it gives no more frame takes all frames out of it. -/
theorem drain_eq_items (d : Decoder) : d.drain = ((items d.buffer).1, ⟨(items d.buffer).2⟩) := by
  fun_induction drain d with
  | case1 d item h items' last hdrain ih =>
    obtain ⟨body, rest, hfront, hnext⟩ | ⟨-, hnext⟩ | ⟨_, -, hnext⟩ := d.next_cases
    · rw [hnext] at h ih hdrain
      have hitem : decodeFrame body = item := by
        have hgiven := frameGiven?_eq_some_iff.mpr (rfl : callResult (decodeFrame body) = _)
        exact Option.some.inj (hgiven.symm.trans h)
      rw [items_of_frame hfront, hitem]
      rw [hdrain] at ih
      simp only at ih
      rw [Prod.mk.injEq] at ih
      rw [ih.1, ih.2]
    · rw [hnext] at h
      cases h
    · rw [hnext] at h
      cases h
  | case2 d h =>
    obtain ⟨body, rest, hfront, hnext⟩ | ⟨hfront, hnext⟩ | ⟨_, hfront, hnext⟩ := d.next_cases
    · rw [hnext, frameGiven?_eq_some_iff.mpr rfl] at h
      cases h
    · rw [hnext, items_of_ne_frame (by rw [hfront]; nofun)]
    · rw [hnext, items_of_ne_frame (by rw [hfront]; nofun)]

/-- Reads pieces of a stream, and drains the decoder after each. -/
def feed (d : Decoder) : List Bytes → List (Except DecodeError Frame) × Decoder
  | [] => ([], d)
  | b :: pieces =>
    let (given, d) := (d.extend b).drain
    let (given', d) := d.feed pieces
    (given ++ given', d)

/-- Reading in pieces gives what reading at once gives. -/
theorem feed_eq_items {d : Decoder} (hd : items d.buffer = ([], d.buffer)) (pieces : List Bytes) :
    d.feed pieces = ((items (d.buffer ++ pieces.flatten)).1,
      ⟨(items (d.buffer ++ pieces.flatten)).2⟩) := by
  induction pieces generalizing d with
  | nil => rw [feed, List.flatten_nil, List.append_nil, hd]
  | cons b pieces ih =>
    have hrest := ih (d := ⟨(items (d.buffer ++ b)).2⟩) (items_left _)
    simp only [feed, drain_eq_items, extend, hrest]
    rw [List.flatten_cons, ← List.append_assoc, items_append (d.buffer ++ b)]

theorem feed_empty_eq_items (pieces : List Bytes) :
    empty.feed pieces = ((items pieces.flatten).1, ⟨(items pieces.flatten).2⟩) :=
  feed_eq_items items_nil pieces

/-- A stream is read in pieces, and after each the decoder is called until it gives no more frame.
Two cuts of one stream give the same frames and leave the same bytes. These are the frames that the
stream is made of, good and malformed alike, each read from its own bytes, and what stands behind
them. A call that finds no whole frame takes nothing away; one that gives a frame takes away this
frame and reads nothing else; one that finds a bad length takes nothing away, and every later call
finds it again, whatever has come behind it. -/
theorem feed_independent_of_cut :
    (∀ pieces pieces' : List Bytes, pieces.flatten = pieces'.flatten →
      empty.feed pieces = empty.feed pieces') ∧
    (∀ stream : Bytes, ∃ bodies left, Framing stream bodies left) ∧
    (∀ (pieces : List Bytes) (bodies : List Bytes) (left : Bytes),
      Framing pieces.flatten bodies left →
        empty.feed pieces = (bodies.map decodeFrame, ⟨left⟩)) ∧
    (∀ d d' : Decoder, d.next = (.ok none, d') → d' = d) ∧
    (∀ (d d' : Decoder) (item : Except DecodeError Frame), d.next = (callResult item, d') →
      ∃ body, d.buffer = framed body ++ d'.buffer ∧ item = decodeFrame body ∧
        ∀ rest, next ⟨framed body ++ rest⟩ = (callResult item, ⟨rest⟩)) ∧
    ∀ (d d' : Decoder) (size : UInt32), d.next = (.error (.invalidLength size), d') →
      d' = d ∧ ∀ calls, (∀ result ∈ (d.perform calls).1, result = .error (.invalidLength size)) ∧
        (d.perform calls).2 = d.extend (bytesRead calls) := by
  refine ⟨?_, fun stream => ?_, ?_, fun _ _ => eq_of_next_none, fun _ _ _ => next_eq_callResult,
    ?_⟩
  · intro pieces pieces' h
    rw [feed_empty_eq_items, feed_empty_eq_items, h]
  · obtain ⟨bodies, h⟩ := exists_framing stream
    exact ⟨bodies, _, h⟩
  · intro pieces bodies left h
    rw [feed_empty_eq_items, h.items_eq]
  · intro d d' size h
    obtain ⟨rfl, hfront⟩ := front_of_next_invalidLength h
    exact ⟨rfl, perform_of_invalidLength hfront⟩

/-- A malformed frame, a good one and a bad length. -/
def spoiltStream : Bytes := framed [8] ++ framed [8, 7] ++ [0, 1, 0, 1]

/-- A cut of it within a length and within a frame. -/
def spoiltPieces : List Bytes := [[0, 0], [0, 1, 8, 0, 0, 0, 2, 8], [7, 0, 1], [0, 1]]

theorem framing_spoiltStream : Framing spoiltStream [[8], [8, 7]] [0, 1, 0, 1] := by
  refine ⟨by decide, by decide, ?_⟩
  have h : front [0, 1, 0, 1] = .invalidLength 65537 := by rfl
  rw [h]
  nofun

theorem feed_independent_of_cut_spoiltStream :
    empty.feed spoiltPieces =
        ([.error ⟨[⟨"Frame", "source_node"⟩], .varint⟩, .ok ⟨7, 0, none⟩], ⟨[0, 1, 0, 1]⟩) ∧
      empty.feed [spoiltStream] = empty.feed spoiltPieces := by
  obtain ⟨hcut, -, hframes, -⟩ := feed_independent_of_cut
  have hflat : spoiltPieces.flatten = spoiltStream := by decide
  refine ⟨?_, hcut _ _ (by decide)⟩
  rw [hframes spoiltPieces _ _ (hflat ▸ framing_spoiltStream)]
  have hbad : decodeFrame [8] = .error ⟨[⟨"Frame", "source_node"⟩], .varint⟩ := by cbv
  have hgood : decodeFrame [8, 7] = .ok ⟨7, 0, none⟩ := by cbv
  rw [List.map_cons, List.map_cons, List.map_nil, hbad, hgood]

end Decoder

end SignedControl.Wire
