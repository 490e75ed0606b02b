import SignedControl.Wire.FrameFormat

/-!
# Frames on a byte stream

On a stream every frame follows its length, a 32-bit word with the most significant byte first. A
length above `maxFrameSize` cannot be skipped, because nothing tells where the next frame begins;
a frame whose bytes are malformed can.

* `encode`, `decode`: one frame and its length.
* `items`: all frames of a stream at once.
* `Decoder`: what has been read from a stream and not yet been taken out as a frame.
-/

namespace SignedControl.Wire

/-- The greatest length of a frame. -/
def maxFrameSize : Nat := 65536

/-- The number of bytes of a length. -/
def lengthSize : Nat := 4

/-- Why a frame cannot be written, or read from a stream. -/
inductive CodecError where
  /-- The frame to be written is too long. -/
  | frameTooLarge (size : Nat)
  /-- The length on the stream is too great. -/
  | invalidLength (size : UInt32)
  /-- The bytes of a frame are malformed. -/
  | decode (cause : DecodeError)
deriving DecidableEq, Repr

namespace CodecError

/-- The wording of a codec error. -/
def message : CodecError → String
  | .frameTooLarge size =>
    "Frame too large: " ++ toString size ++ " bytes (max: " ++ toString maxFrameSize ++ ")"
  | .invalidLength size => "Invalid frame length prefix: " ++ toString size.toNat
  | .decode cause => "Protobuf decode error: " ++ cause.message

/-- The wording of a codec error, followed by that of its cause if it has one of its own. -/
def messages : CodecError → List String
  | .decode cause => [(CodecError.decode cause).message, cause.message]
  | e => [e.message]

end CodecError

/-- A frame with its length in front. -/
def encode (f : Frame) : Except CodecError Bytes :=
  let body := encodeFrame f
  if maxFrameSize < body.length then .error (.frameTooLarge body.length)
  else .ok (Bytes.be32 (UInt32.ofNat body.length) ++ body)

/-- What stands at the front of a stream. -/
inductive Front where
  /-- Not yet a whole frame. -/
  | incomplete
  /-- A length that no frame has. -/
  | invalidLength (size : UInt32)
  /-- The bytes of a frame, and what follows them. -/
  | frame (body rest : Bytes)

/-- Looks at the front of a stream. -/
def front : Bytes → Front
  | b0 :: b1 :: b2 :: b3 :: stream =>
    let size := Bytes.ofBE32 b0 b1 b2 b3
    if maxFrameSize < size.toNat then .invalidLength size
    else
      let body := stream.take size.toNat
      if body.length < size.toNat then .incomplete else .frame body (stream.drop size.toNat)
  | _ => .incomplete

/-- The next frame of a stream, if it is complete, and what is left of the stream. A malformed
frame is taken away like a good one; a bad length stays. -/
def decode (b : Bytes) : Except CodecError (Option Frame) × Bytes :=
  match front b with
  | .incomplete => (.ok none, b)
  | .invalidLength size => (.error (.invalidLength size), b)
  | .frame body rest =>
    match decodeFrame body with
    | .ok f => (.ok (some f), rest)
    | .error e => (.error (.decode e), rest)

/-- A frame in front of a stream is made of its length, its bytes and what follows. -/
theorem length_of_front_frame {b body rest : Bytes} (h : front b = .frame body rest) :
    b.length = lengthSize + body.length + rest.length := by
  unfold front at h
  split at h
  · simp only at h
    split at h
    · cases h
    · split at h
      · cases h
      · cases h
        simp only [List.length_cons, List.length_take, List.length_drop, lengthSize] at *
        omega
  · cases h

/-- Every frame of a stream, good or malformed, up to the first bad length, and what is left of the
stream behind them. -/
def items (b : Bytes) : List (Except DecodeError Frame) × Bytes :=
  match _h : front b with
  | .frame body rest =>
    let (others, left) := items rest
    (decodeFrame body :: others, left)
  | _ => ([], b)
termination_by b.length
decreasing_by
  have := length_of_front_frame _h
  simp only [lengthSize] at this
  omega

/-- The bytes read from a stream that no frame has been made of yet. -/
structure Decoder where
  /-- The bytes, oldest first. -/
  buffer : Bytes
deriving DecidableEq

namespace Decoder

/-- A decoder that has read nothing. -/
def empty : Decoder := ⟨[]⟩

/-- The decoder after more bytes have been read. -/
def extend (d : Decoder) (b : Bytes) : Decoder := ⟨d.buffer ++ b⟩

/-- The next frame, if it is complete, and the decoder without it. -/
def next (d : Decoder) : Except CodecError (Option Frame) × Decoder :=
  let (result, rest) := decode d.buffer
  (result, ⟨rest⟩)

end Decoder

/-- Taking out a frame takes at least its length off the stream. -/
theorem length_lt_of_decode {b rest : Bytes} {f : Frame} (h : decode b = (.ok (some f), rest)) :
    rest.length < b.length := by
  unfold decode at h
  split at h
  · cases h
  · cases h
  · next body rest' hf =>
    have := length_of_front_frame hf
    split at h
    · cases h; simp only [lengthSize] at this; omega
    · cases h

theorem Decoder.length_lt_of_next {d d' : Decoder} {f : Frame} (h : d.next = (.ok (some f), d')) :
    d'.buffer.length < d.buffer.length := by
  cases hd : decode d.buffer with
  | mk result rest =>
    simp only [Decoder.next, hd, Prod.mk.injEq] at h
    obtain ⟨rfl, rfl⟩ := h
    exact length_lt_of_decode hd

/-- No call leaves more bytes than there were. -/
theorem Decoder.length_le_next (d : Decoder) : d.next.2.buffer.length ≤ d.buffer.length := by
  simp only [Decoder.next, decode]
  split
  · exact Nat.le_refl _
  · exact Nat.le_refl _
  · next body rest hf =>
    have := length_of_front_frame hf
    split <;> simp only <;> omega

end SignedControl.Wire
