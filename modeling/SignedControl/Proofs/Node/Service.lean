import SignedControl.Crypto.Ed25519
import SignedControl.Node.Connection
import SignedControl.Proofs.Node.Authorization
import SignedControl.Proofs.Wire.Pieces

/-!
# A connection, whatever the peer sends

The peer of a connection may send any bytes, and the node reads them in pieces of any size. What it
does depends on the bytes alone: they begin with some good frames, and behind these comes a frame
that is malformed, a bad length, or the beginning of a frame that the peer has not finished. The node
answers the good frames in order, and what comes behind them only decides how the connection ends.

* `Wire.frames_append`: a stream that goes on.
* `serveBuffered_eq_serveNext`: answering what has been read is answering frame after frame.
* `serveBuffered_eq`: what is done with the frames that have been read.
* `Connection.run_of_opens`: a connection, for every cut of what the peer sends.
-/

namespace SignedControl

namespace Wire

/-! ## The good frames of a stream -/

/-- The frames of a stream in front of the first that is malformed or has a bad length, and what is
wrong there. -/
def frames (b : Bytes) : List Frame × Option CodecError :=
  match _h : front b with
  | .incomplete => ([], none)
  | .invalidLength size => ([], some (.invalidLength size))
  | .frame body rest =>
    match decodeFrame body with
    | .error e => ([], some (.decode e))
    | .ok f => (f :: (frames rest).1, (frames rest).2)
termination_by b.length
decreasing_by
  all_goals
    have := length_of_front_frame _h
    simp only [lengthSize] at this
    omega

theorem frames_eq (b : Bytes) : frames b =
    match front b with
    | .incomplete => ([], none)
    | .invalidLength size => ([], some (.invalidLength size))
    | .frame body rest =>
      match decodeFrame body with
      | .error e => ([], some (.decode e))
      | .ok f => (f :: (frames rest).1, (frames rest).2) := by
  rw [frames]
  split <;> rename_i h <;> rw [h]

theorem frames_of_incomplete {b : Bytes} (h : front b = .incomplete) : frames b = ([], none) := by
  rw [frames_eq, h]

theorem frames_of_invalidLength {b : Bytes} {size : UInt32} (h : front b = .invalidLength size) :
    frames b = ([], some (.invalidLength size)) := by
  rw [frames_eq, h]

theorem frames_of_malformed {b body rest : Bytes} {e : DecodeError}
    (h : front b = .frame body rest) (he : decodeFrame body = .error e) :
    frames b = ([], some (.decode e)) := by
  rw [frames_eq, h]
  simp only [he]

theorem frames_of_good {b body rest : Bytes} {f : Frame} (h : front b = .frame body rest)
    (hf : decodeFrame body = .ok f) : frames b = (f :: (frames rest).1, (frames rest).2) := by
  rw [frames_eq, h]
  simp only [hf]

/-- More bytes at the end change nothing behind a fault. -/
theorem frames_append_of_fault {b : Bytes} {e : CodecError} (h : (frames b).2 = some e)
    (c : Bytes) : frames (b ++ c) = frames b := by
  fun_induction frames b with
  | case1 => cases h
  | case2 b size hfront => exact frames_of_invalidLength (front_append_of_invalidLength hfront c)
  | case3 b body rest hfront e he =>
    exact frames_of_malformed (front_append_of_frame hfront c) he
  | case4 b body rest hfront f hf ih =>
    rw [frames_of_good (front_append_of_frame hfront c) hf, ih h]

/-- Without a fault, they complete what is left. -/
theorem frames_append {b : Bytes} (h : (frames b).2 = none) (c : Bytes) :
    frames (b ++ c) =
      ((frames b).1 ++ (frames ((items b).2 ++ c)).1, (frames ((items b).2 ++ c)).2) := by
  fun_induction frames b with
  | case1 b hfront =>
    rw [items_of_ne_frame (by rw [hfront]; nofun)]
    rfl
  | case2 => cases h
  | case3 => cases h
  | case4 b body rest hfront f hf ih =>
    rw [frames_of_good (front_append_of_frame hfront c) hf, ih h, items_of_frame hfront]
    rfl

/-- Without a fault, what is left is the beginning of a frame. -/
theorem front_left {b : Bytes} (h : (frames b).2 = none) : front (items b).2 = .incomplete := by
  fun_induction frames b with
  | case1 b hfront =>
    rw [items_of_ne_frame (by rw [hfront]; nofun)]
    exact hfront
  | case2 => cases h
  | case3 => cases h
  | case4 b body rest hfront f hf ih =>
    rw [items_of_frame hfront]
    exact ih h

/-- A stream that begins with some good frames. -/
inductive Opens : Bytes → List Frame → Bytes → Prop where
  /-- There are none. -/
  | nil (rest : Bytes) : Opens rest [] rest
  /-- A frame, and what follows it. -/
  | cons {body stream rest : Bytes} {f : Frame} {fs : List Frame} (hlen : body.length ≤ maxFrameSize)
    (hf : decodeFrame body = .ok f) (h : Opens stream fs rest) :
    Opens (framed body ++ stream) (f :: fs) rest

/-- What comes behind the good frames, and the fault in it. -/
inductive Ends : Bytes → Option CodecError → Prop where
  /-- Less than a whole frame. -/
  | truncated {rest : Bytes} (h : front rest = .incomplete) : Ends rest none
  /-- A length that no frame has. -/
  | invalidLength {rest : Bytes} {size : UInt32} (h : front rest = .invalidLength size) :
    Ends rest (some (.invalidLength size))
  /-- A malformed frame, and anything else. -/
  | malformed {body : Bytes} {e : DecodeError} (hlen : body.length ≤ maxFrameSize)
    (he : decodeFrame body = .error e) (after : Bytes) :
    Ends (framed body ++ after) (some (.decode e))

theorem Ends.frames_eq {rest : Bytes} {fault : Option CodecError} (h : Ends rest fault) :
    frames rest = ([], fault) := by
  cases h with
  | truncated h => exact frames_of_incomplete h
  | invalidLength h => exact frames_of_invalidLength h
  | malformed hlen he after => exact frames_of_malformed (front_framed hlen after) he

theorem Opens.frames_eq {stream rest : Bytes} {fs : List Frame} {fault : Option CodecError}
    (h : Opens stream fs rest) (hrest : Ends rest fault) : frames stream = (fs, fault) := by
  induction h with
  | nil => exact hrest.frames_eq
  | cons hlen hf _ ih => rw [frames_of_good (front_framed hlen _) hf, ih hrest]

theorem exists_opens (stream : Bytes) :
    ∃ rest, Opens stream (frames stream).1 rest ∧ Ends rest (frames stream).2 := by
  fun_induction frames stream with
  | case1 b h => exact ⟨b, .nil b, .truncated h⟩
  | case2 b size h => exact ⟨b, .nil b, .invalidLength h⟩
  | case3 b body after h e he =>
    obtain ⟨hlen, rfl⟩ := front_eq_frame_iff.mp h
    exact ⟨_, .nil _, .malformed hlen he after⟩
  | case4 b body stream h f hf ih =>
    obtain ⟨hlen, rfl⟩ := front_eq_frame_iff.mp h
    obtain ⟨rest, hopens, hends⟩ := ih
    exact ⟨rest, .cons hlen hf hopens, hends⟩

/-! ## Writing -/

/-- Frames as they are written one after another. -/
def streamOf (fs : List Frame) : Bytes := (fs.map fun f => framed (encodeFrame f)).flatten

theorem streamOf_append (fs fs' : List Frame) :
    streamOf (fs ++ fs') = streamOf fs ++ streamOf fs' := by
  rw [streamOf, List.map_append, List.flatten_append]
  rfl

theorem streamOf_cons (f : Frame) (fs : List Frame) :
    streamOf (f :: fs) = framed (encodeFrame f) ++ streamOf fs := rfl

theorem eq_framed_of_encode {f : Frame} {bytes : Bytes} (h : encode f = .ok bytes) :
    bytes = framed (encodeFrame f) := (encode_eq_ok_iff.mp h).2

end Wire

namespace Authority

variable [SignatureScheme]

/-! ## Answers -/

theorem length_data_handle (a : Authority) (r : Request) :
    (a.handle r).1.data.length ≤ sessionKeyLength := by
  obtain ⟨_, _, -, h⟩ | ⟨_, _, -, h⟩ | ⟨-, _, -, h⟩ := a.handle_cases r
  · rw [h]
    exact Nat.le_of_eq (a.source a.issued).length_eq
  · rw [h]
    exact Nat.zero_le _
  · rw [h]
    exact Nat.zero_le _

/-- Replies are short enough to be written. -/
theorem encode_ofResponse_handle (a : Authority) (nodeId target : UInt32) (r : Request) :
    Wire.encode (.ofResponse nodeId target (a.handle r).1) =
      .ok (Wire.framed (Wire.encodeFrame (.ofResponse nodeId target (a.handle r).1))) := by
  have hshort := a.length_data_handle r
  have hroom : sessionKeyLength + 38 ≤ Wire.maxFrameSize := by decide
  obtain ⟨bytes, hbytes⟩ := Wire.exists_encode (f := .ofResponse nodeId target (a.handle r).1) (by
    intro body hbody
    cases hbody
    exact Nat.le_trans (Nat.add_le_add_right hshort 38) hroom)
  rw [hbytes, ← Wire.eq_framed_of_encode hbytes]

theorem encode_of_handleFrame {nodeId : UInt32} {a a' : Authority} {f reply : Frame}
    (h : a.handleFrame nodeId f = (some reply, a')) :
    Wire.encode reply = .ok (Wire.framed (Wire.encodeFrame reply)) := by
  unfold handleFrame at h
  split at h
  · cases h
  · split at h
    · next r hr =>
      cases h
      exact a.encode_ofResponse_handle nodeId f.source r
    · cases h

/-- Answers frames one after another. -/
def answerFrames (nodeId : UInt32) (a : Authority) : List Frame → List Frame × Authority
  | [] => ([], a)
  | f :: fs =>
    let (reply, a) := a.handleFrame nodeId f
    let (replies, a) := a.answerFrames nodeId fs
    (reply.toList ++ replies, a)

theorem answerFrames_append (nodeId : UInt32) (a : Authority) (fs fs' : List Frame) :
    a.answerFrames nodeId (fs ++ fs') =
      ((a.answerFrames nodeId fs).1 ++
        ((a.answerFrames nodeId fs).2.answerFrames nodeId fs').1,
        ((a.answerFrames nodeId fs).2.answerFrames nodeId fs').2) := by
  induction fs generalizing a with
  | nil => rfl
  | cons f fs ih => simp only [List.cons_append, answerFrames, ih, List.append_assoc]

theorem encode_of_mem_answerFrames {nodeId : UInt32} {a : Authority} {fs : List Frame}
    {reply : Frame} (h : reply ∈ (a.answerFrames nodeId fs).1) :
    Wire.encode reply = .ok (Wire.framed (Wire.encodeFrame reply)) := by
  induction fs generalizing a with
  | nil => cases h
  | cons f fs ih =>
    rcases List.mem_append.mp h with h | h
    · exact encode_of_handleFrame (Prod.ext (Option.mem_toList.mp h) rfl)
    · exact ih h

end Authority

namespace Node

variable [SignatureScheme]

open Wire (frames items streamOf)

/-! ## Connections -/

/-- Answers the next frame of those that have been read, and says whether to look for another. -/
def serveNext (nodeId : UInt32) (a : Authority) (d : Wire.Decoder) : Bool × Served :=
  match d.next with
  | (.ok none, d') => (false, ⟨[], a, d', none⟩)
  | (.error e, d') => (false, ⟨[], a, d', some e⟩)
  | (.ok (some f), d') =>
    match a.handleFrame nodeId f with
    | (none, a') => (true, ⟨[], a', d', none⟩)
    | (some reply, a') =>
      match Wire.encode reply with
      | .error e => (false, ⟨[], a', d', some e⟩)
      | .ok bytes => (true, ⟨bytes, a', d', none⟩)

/-- Every frame that has been read is answered by answering one frame after another. -/
theorem serveBuffered_eq_serveNext (nodeId : UInt32) (a : Authority) (d : Wire.Decoder) :
    serveBuffered nodeId a d =
      match serveNext nodeId a d with
      | (false, served) => served
      | (true, served) =>
        let rest := serveBuffered nodeId served.authority served.decoder
        { rest with written := served.written ++ rest.written } := by
  rw [serveBuffered, serveNext]
  split
  · next h => rw [h]
  · next h => rw [h]
  · next f d' h =>
    rw [h]
    simp only
    cases a.handleFrame nodeId f with
    | mk reply a' =>
      cases reply with
      | none => rfl
      | some reply => simp only; cases Wire.encode reply <;> rfl

theorem serveNext_of_none {nodeId : UInt32} {a : Authority} {d d' : Wire.Decoder}
    (h : d.next = (.ok none, d')) : serveNext nodeId a d = (false, ⟨[], a, d', none⟩) := by
  rw [serveNext, h]

theorem serveNext_of_error {nodeId : UInt32} {a : Authority} {d d' : Wire.Decoder}
    {e : Wire.CodecError} (h : d.next = (.error e, d')) :
    serveNext nodeId a d = (false, ⟨[], a, d', some e⟩) := by
  rw [serveNext, h]

theorem serveNext_of_some {nodeId : UInt32} {a : Authority} {d d' : Wire.Decoder} {f : Frame}
    (h : d.next = (.ok (some f), d')) :
    serveNext nodeId a d =
      (true, ⟨streamOf (a.handleFrame nodeId f).1.toList, (a.handleFrame nodeId f).2, d',
        none⟩) := by
  rw [serveNext, h]
  cases hreply : a.handleFrame nodeId f with
  | mk reply a' =>
    cases reply with
    | none => simp [hreply, streamOf]
    | some reply =>
      simp only [hreply, Authority.encode_of_handleFrame hreply]
      simp [streamOf]

/-- Answering a frame leaves less in the decoder, or nothing more to do. -/
theorem serveNext_le (nodeId : UInt32) (a : Authority) (d : Wire.Decoder) :
    2 * (serveNext nodeId a d).2.decoder.buffer.length + (serveNext nodeId a d).1.toNat ≤
      2 * d.buffer.length := by
  have hle := d.length_le_next
  rw [serveNext]
  split
  · next d' h =>
    rw [h] at hle
    simp only [Bool.toNat_false] at hle ⊢
    omega
  · next e d' h =>
    rw [h] at hle
    simp only [Bool.toNat_false] at hle ⊢
    omega
  · next f d' h =>
    have hlt := Wire.Decoder.length_lt_of_next h
    split
    · simp only [Bool.toNat_true]
      omega
    · split
      · simp only [Bool.toNat_false]
        omega
      · simp only [Bool.toNat_true]
        omega

/-- Every good frame that has been read is answered, up to the first fault. -/
theorem serveBuffered_eq (nodeId : UInt32) (a : Authority) (d : Wire.Decoder) :
    ∃ d', serveBuffered nodeId a d = {
        written := streamOf (a.answerFrames nodeId (frames d.buffer).1).1
        authority := (a.answerFrames nodeId (frames d.buffer).1).2
        decoder := d'
        failure := (frames d.buffer).2 } ∧
      ((frames d.buffer).2 = none → d' = ⟨(items d.buffer).2⟩) := by
  obtain ⟨b⟩ := d
  fun_induction frames b generalizing a with
  | case1 b h =>
    have hnext := Wire.Decoder.next_of_incomplete (d := ⟨b⟩) h
    refine ⟨⟨b⟩, ?_, fun _ => ?_⟩
    · rw [serveBuffered_eq_serveNext, serveNext_of_none hnext]
      rfl
    · rw [Wire.items_of_ne_frame (by rw [h]; nofun)]
  | case2 b size h =>
    have hnext := Wire.Decoder.next_of_invalidLength (d := ⟨b⟩) h
    refine ⟨⟨b⟩, ?_, nofun⟩
    rw [serveBuffered_eq_serveNext, serveNext_of_error hnext]
    rfl
  | case3 b body rest h e he =>
    have hnext := Wire.Decoder.next_of_frame (d := ⟨b⟩) h
    rw [he] at hnext
    refine ⟨⟨rest⟩, ?_, nofun⟩
    rw [serveBuffered_eq_serveNext, serveNext_of_error hnext]
    rfl
  | case4 b body rest h f hf ih =>
    have hnext := Wire.Decoder.next_of_frame (d := ⟨b⟩) h
    rw [hf] at hnext
    obtain ⟨d', hserved, hleft⟩ := ih (a.handleFrame nodeId f).2
    refine ⟨d', ?_, fun hnone => ?_⟩
    · rw [serveBuffered_eq_serveNext, serveNext_of_some hnext]
      simp only [hserved, Authority.answerFrames, Wire.streamOf_append]
    · rw [hleft hnone, Wire.items_of_frame h]

/-- How a connection stands after a fault, or after the peer has closed it. -/
def Status.ofFault : Option Wire.CodecError → Status
  | none => .closed
  | some e => .failed e

namespace Connection

theorem run_of_failed {nodeId : UInt32} {c : Connection} {e : Wire.CodecError}
    (h : c.status = .failed e) (a : Authority) (pieces : List Bytes) :
    c.run nodeId a pieces = ([], c, a) := by
  induction pieces with
  | nil => simp only [run, receive, h]
  | cons b pieces ih => simp only [run, receive, h, ih, List.append_nil]

/-- A running connection, which has some bytes left over that are less than a frame. -/
theorem run_eq (nodeId : UInt32) (a : Authority) {left : Bytes}
    (hleft : Wire.front left = .incomplete) {pieces : List Bytes}
    (hpieces : ∀ b ∈ pieces, b ≠ []) :
    ∃ d, run nodeId ⟨⟨left⟩, .running⟩ a pieces =
      (streamOf (a.answerFrames nodeId (frames (left ++ pieces.flatten)).1).1,
        ⟨d, .ofFault (frames (left ++ pieces.flatten)).2⟩,
        (a.answerFrames nodeId (frames (left ++ pieces.flatten)).1).2) := by
  induction pieces generalizing a left with
  | nil =>
    rw [List.flatten_nil, List.append_nil, Wire.frames_of_incomplete hleft]
    exact ⟨⟨left⟩, rfl⟩
  | cons b pieces ih =>
    obtain ⟨hb, hrest⟩ := List.forall_mem_cons.mp hpieces
    have hb' : b.isEmpty = false := List.isEmpty_eq_false_iff.mpr hb
    obtain ⟨d, hserved, hdecoder⟩ := serveBuffered_eq nodeId a ⟨left ++ b⟩
    simp only at hserved hdecoder
    rw [List.flatten_cons, ← List.append_assoc]
    simp only [run, receive, Wire.Decoder.extend, hb', Bool.false_eq_true, if_false, hserved]
    cases hstop : (frames (left ++ b)).2 with
    | some e =>
      rw [Wire.frames_append_of_fault hstop, hstop]
      simp only [run_of_failed (c := ⟨d, .failed e⟩) rfl, List.append_nil]
      exact ⟨d, rfl⟩
    | none =>
      obtain ⟨d', hrun⟩ :=
        ih (a.answerFrames nodeId (frames (left ++ b)).1).2 (Wire.front_left hstop) hrest
      rw [Wire.frames_append hstop, hdecoder hstop]
      simp only [hrun, Authority.answerFrames_append, Wire.streamOf_append]
      exact ⟨d', rfl⟩

/-- A stream of any bytes begins with some good frames, and ends in less than a frame or goes on with
a fault. In whatever pieces a node reads it, it writes the encodings of its answers to the good
frames, in order, and nothing else; its authority is the one after them; and the connection ends
badly with the fault, or well if there is none. So all this does not depend on the cut. -/
theorem run_of_opens (nodeId : UInt32) (a : Authority) :
    (∀ stream, ∃ fs rest fault, Wire.Opens stream fs rest ∧ Wire.Ends rest fault) ∧
    (∀ (fs : List Frame) (rest : Bytes) (fault : Option Wire.CodecError) (pieces : List Bytes),
      (∀ b ∈ pieces, b ≠ []) → Wire.Opens pieces.flatten fs rest → Wire.Ends rest fault →
      (∃ d, run nodeId new a pieces =
        (streamOf (a.answerFrames nodeId fs).1, ⟨d, .ofFault fault⟩,
          (a.answerFrames nodeId fs).2)) ∧
      ∀ reply ∈ (a.answerFrames nodeId fs).1,
        Wire.encode reply = .ok (Wire.framed (Wire.encodeFrame reply))) ∧
    ∀ pieces pieces' : List Bytes, (∀ b ∈ pieces, b ≠ []) → (∀ b ∈ pieces', b ≠ []) →
      pieces.flatten = pieces'.flatten →
      (run nodeId new a pieces).1 = (run nodeId new a pieces').1 ∧
        (run nodeId new a pieces).2.1.status = (run nodeId new a pieces').2.1.status ∧
        (run nodeId new a pieces).2.2 = (run nodeId new a pieces').2.2 := by
  have hrun : ∀ pieces : List Bytes, (∀ b ∈ pieces, b ≠ []) → ∃ d, run nodeId new a pieces =
      (streamOf (a.answerFrames nodeId (frames pieces.flatten).1).1,
        ⟨d, .ofFault (frames pieces.flatten).2⟩,
        (a.answerFrames nodeId (frames pieces.flatten).1).2) :=
    fun pieces hpieces => run_eq nodeId a (rfl : Wire.front [] = _) hpieces
  refine ⟨fun stream => ?_, ?_, ?_⟩
  · obtain ⟨rest, hopens, hends⟩ := Wire.exists_opens stream
    exact ⟨_, rest, _, hopens, hends⟩
  · intro fs rest fault pieces hpieces hopens hends
    refine ⟨?_, fun reply => Authority.encode_of_mem_answerFrames⟩
    have h := hrun pieces hpieces
    rw [hopens.frames_eq hends] at h
    exact h
  · intro pieces pieces' hpieces hpieces' hflat
    obtain ⟨d, h⟩ := hrun pieces hpieces
    obtain ⟨d', h'⟩ := hrun pieces' hpieces'
    rw [h, h', hflat]
    exact ⟨rfl, rfl, rfl⟩

end Connection

end Node

/-! ## A spoilt stream -/

namespace Node.Connection

/-- A request that nobody has signed. -/
def unsignedRequest : Request := ⟨3, 1, 0, []⟩

/-- The request, a malformed frame, and the request again. -/
def spoiltStream : Bytes :=
  Wire.framed (Wire.encodeFrame (.ofRequest 100 10 unsignedRequest)) ++
    (Wire.framed [8] ++ Wire.framed (Wire.encodeFrame (.ofRequest 100 10 unsignedRequest)))

/-- A node that trusts nobody. -/
def lonelyNode : Authority := .new [] .initial fun _ => Block.fill sessionKeyLength 0

theorem opens_spoiltStream : Wire.Opens spoiltStream [.ofRequest 100 10 unsignedRequest]
    (Wire.framed [8] ++ Wire.framed (Wire.encodeFrame (.ofRequest 100 10 unsignedRequest))) :=
  .cons (by decide +kernel) (Wire.decodeFrame_encodeFrame (by decide +kernel)) (.nil _)

theorem run_of_opens_spoiltStream :
    ∃ d, run 10 new lonelyNode [spoiltStream.take 3, spoiltStream.drop 3] =
      (Wire.framed (Wire.encodeFrame (.ofResponse 10 100 ⟨3, 1, 2, []⟩)),
        ⟨d, .failed (.decode ⟨[⟨"Frame", "source_node"⟩], .varint⟩)⟩, lonelyNode) := by
  have hbad : Wire.decodeFrame [8] = .error ⟨[⟨"Frame", "source_node"⟩], .varint⟩ := by cbv
  obtain ⟨hrun, -⟩ := (run_of_opens 10 lonelyNode).2.1 _ _ _
    [spoiltStream.take 3, spoiltStream.drop 3] (by decide +kernel)
    (by simpa using opens_spoiltStream) (.malformed (by decide) hbad _)
  have hanswer : lonelyNode.answerFrames 10 [.ofRequest 100 10 unsignedRequest] =
      ([.ofResponse 10 100 ⟨3, 1, 2, []⟩], lonelyNode) := by rfl
  rw [hanswer] at hrun
  simpa [Wire.streamOf, Status.ofFault] using hrun

end Node.Connection

end SignedControl
