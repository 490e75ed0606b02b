import SignedControl.Proofs.Wire.Pieces

/-!
# The written form is the shortest

A reader takes many spellings of a frame: numbers with more digits than needed or with bits that are
dropped, fields in any order, fields that come again, fields that it does not know, and a body that
comes in parts. Whatever it reads, what it has so far could be written in no more bytes than it has
taken: each field that it stores replaces one of the message or is added to it, and the bytes of the
field suffice for the new value. So a frame that has been read can be written, in no more bytes.

* `Varint.length_encode_add_le`: a length in two parts takes no less room than the whole.
* `FieldReader.weight_readDownTo`: what one field keeps, a message keeps.
* `length_encodeFrame_of_decodeFrame`: a frame read from some bytes is written in no more.
* `codec_round_trip`: what is written is read back, and what is read can be written.
-/

namespace SignedControl.Wire

/-! ## Numbers -/

namespace Varint

theorem length_encode_of_lt {n : Nat} (h : n < 128) : (encode n).length = 1 := by
  rw [encode, if_pos h, List.length_singleton]

theorem length_encode_of_le {n : Nat} (h : 128 ≤ n) :
    (encode n).length = (encode (n / 128)).length + 1 := by
  rw [encode, if_neg (Nat.not_lt.mpr h), List.length_cons]

theorem length_encode_pos (n : Nat) : 0 < (encode n).length := by
  by_cases h : n < 128
  · rw [length_encode_of_lt h]
    exact Nat.one_pos
  · rw [length_encode_of_le (Nat.not_lt.mp h)]
    exact Nat.succ_pos _

/-- A smaller number has no more digits. -/
theorem length_encode_mono {m n : Nat} (h : m ≤ n) : (encode m).length ≤ (encode n).length := by
  induction n using Nat.strongRecOn generalizing m with
  | ind n ih =>
    by_cases hm : m < 128
    · rw [length_encode_of_lt hm]
      exact length_encode_pos n
    · have hn : 128 ≤ n := by omega
      rw [length_encode_of_le (Nat.not_lt.mp hm), length_encode_of_le hn]
      exact Nat.succ_le_succ (ih (n / 128) (by omega) (Nat.div_le_div_right h))

/-- A sum has at most one digit more than the greater summand. -/
theorem length_encode_add_le (m n : Nat) :
    (encode (m + n)).length ≤ (encode m).length + (encode n).length := by
  have hdouble : ∀ k, (encode (k + k)).length ≤ (encode k).length + 1 := by
    intro k
    by_cases hk : k + k < 128
    · rw [length_encode_of_lt hk]
      omega
    · rw [length_encode_of_le (Nat.not_lt.mp hk)]
      exact Nat.succ_le_succ (length_encode_mono (by omega))
  have hm := length_encode_pos m
  have hn := length_encode_pos n
  rcases Nat.le_total m n with h | h
  · have hsum := length_encode_mono (Nat.add_le_add_right h n)
    have := hdouble n
    omega
  · have hsum := length_encode_mono (Nat.add_le_add_left h m)
    have := hdouble m
    omega

/-- A number is read from at least as many digits as it needs. -/
theorem length_encode_of_decodeWithin {room n : Nat} {b rest : Bytes}
    (h : decodeWithin room b = some (n, rest)) :
    (encode n).length + rest.length ≤ b.length := by
  induction room generalizing b n with
  | zero => cases b <;> simp [decodeWithin] at h
  | succ room ih =>
    cases b with
    | nil => simp [decodeWithin] at h
    | cons x b =>
      unfold decodeWithin at h
      split at h
      · next hx =>
        split at h
        · cases h
        · cases h
          rw [length_encode_of_lt hx, List.length_cons]
          omega
      · simp only [Option.map_eq_some_iff, Prod.exists, Prod.mk.injEq] at h
        obtain ⟨m, r, hr, rfl, rfl⟩ := h
        have hx := x.toNat_lt
        have hm := ih hr
        have hmore : (encode (x.toNat - 128 + 128 * m)).length ≤ (encode m).length + 1 := by
          by_cases hsmall : x.toNat - 128 + 128 * m < 128
          · rw [length_encode_of_lt hsmall]
            omega
          · have hdiv : (x.toNat - 128 + 128 * m) / 128 = m := by omega
            have hdigits := length_encode_of_le (Nat.not_lt.mp hsmall)
            rw [hdiv] at hdigits
            exact Nat.le_of_eq hdigits
        rw [List.length_cons]
        omega

end Varint

theorem length_encode_of_readVarint {b rest : Bytes} {n : Nat}
    (h : readVarint b = .ok (n, rest)) : (Varint.encode n).length + rest.length ≤ b.length := by
  unfold readVarint at h
  split at h
  · next hd => cases h; exact Varint.length_encode_of_decodeWithin hd
  · cases h

/-! ## Values -/

/-- A word needs no more digits than the number that it is cut from. -/
theorem length_encode_of_readUInt32 {wire : WireType} {b rest : Bytes} {w : UInt32}
    (h : readUInt32 wire b = .ok (w, rest)) :
    (Varint.encode w.toNat).length + rest.length ≤ b.length := by
  simp only [readUInt32, bind, Except.bind, pure, Except.pure] at h
  split at h
  · cases h
  · split at h
    · cases h
    · next value hv =>
      cases h
      have hle : (UInt32.ofNat value.1).toNat ≤ value.1 := by
        rw [UInt32.toNat_ofNat']
        exact Nat.mod_le _ _
      have hdigits := Varint.length_encode_mono hle
      have hread := length_encode_of_readVarint hv
      omega

theorem length_encode_of_readBytes {wire : WireType} {b data rest : Bytes}
    (h : readBytes wire b = .ok (data, rest)) :
    (Varint.encode data.length).length + data.length + rest.length ≤ b.length := by
  simp only [readBytes, bind, Except.bind] at h
  split at h
  · cases h
  · split at h
    · cases h
    · next count hv =>
      obtain ⟨hrest, hlen⟩ := takeBytes_eq_ok_iff.mp h
      have hread := length_encode_of_readVarint hv
      rw [hrest, List.length_append, ← hlen] at hread
      omega

namespace FieldReader

variable {σ : Type}

/-- If no field adds more to a message than it takes, a message does not either. -/
theorem weight_readDownTo (r : FieldReader σ) (weight : σ → Nat)
    (hread : ∀ {s s' b rest}, r.read s b = .ok (s', rest) →
      weight s' + rest.length ≤ weight s + b.length)
    {limit : Nat} {s s' : σ} {b rest : Bytes} (h : r.readDownTo limit s b = .ok (s', rest)) :
    weight s' + rest.length ≤ weight s + b.length := by
  fun_induction readDownTo r limit s b with
  | case1 => cases h; exact Nat.le_refl _
  | case2 => cases h
  | case3 s b _ s₁ rest₁ hr ih => exact Nat.le_trans (ih h) (hread hr)

/-- A nested message is read from as many bytes as its length says. -/
theorem readNested_eq_ok (r : FieldReader σ) {levels : Nat} {s s' : σ} {wire : WireType}
    {b rest : Bytes} (h : r.readNested levels s wire b = .ok (s', rest)) :
    ∃ count inner, readVarint b = .ok (count, inner) ∧ inner.length = count + rest.length ∧
      r.readDownTo rest.length s inner = .ok (s', rest) := by
  simp only [readNested, bind, Except.bind, pure, Except.pure, throw, throwThe,
    MonadExceptOf.throw] at h
  split at h
  · cases h
  · split at h
    · cases h
    · split at h
      · cases h
      · next v hv =>
        obtain ⟨count, inner⟩ := v
        simp only at h
        split at h
        · cases h
        · split at h
          · cases h
          · next hd =>
            split at h
            · cases h
            · next hend =>
              cases h
              simp only [ne_eq, Decidable.not_not] at hend hd
              rw [← hend] at hd
              exact ⟨count, inner, unnamed_eq_ok.mp hv, by omega, hd⟩

/-- A nested message adds no more than its length says. -/
theorem weight_readNested (r : FieldReader σ) (weight : σ → Nat)
    (hread : ∀ {s s' b rest}, r.read s b = .ok (s', rest) →
      weight s' + rest.length ≤ weight s + b.length)
    {levels : Nat} {s s' : σ} {wire : WireType} {b rest : Bytes}
    (h : r.readNested levels s wire b = .ok (s', rest)) :
    ∃ count, weight s' ≤ weight s + count ∧
      (Varint.encode count).length + count + rest.length ≤ b.length := by
  obtain ⟨count, inner, hv, hinner, hd⟩ := r.readNested_eq_ok h
  have hlength := length_encode_of_readVarint hv
  have hweight := r.weight_readDownTo weight hread hd
  exact ⟨count, by omega, by omega⟩

/-- A reader of keyed fields adds no more than it takes if no value, with a key of one byte, does. -/
theorem weight_ofKeyed {value : σ → Key → Bytes → Except DecodeError (σ × Bytes)}
    {hvalue : ∀ {s s' key b rest}, value s key b = .ok (s', rest) → rest.length ≤ b.length}
    {weight : σ → Nat}
    (hread : ∀ {s s' key b rest}, value s key b = .ok (s', rest) →
      weight s' + rest.length ≤ weight s + b.length + 1)
    {s s' : σ} {b rest : Bytes} (h : (ofKeyed value hvalue).read s b = .ok (s', rest)) :
    weight s' + rest.length ≤ weight s + b.length := by
  simp only [ofKeyed, bind, Except.bind] at h
  split at h
  · cases h
  · next hk =>
    have hkey := length_lt_of_readKey (unnamed_eq_ok.mp hk)
    have hfield := hread h
    omega

end FieldReader

/-! ## Requests, replies and frames -/

/-- A word that is written takes its digits and a key. -/
theorem length_encodeUInt32_le_digits {tag : Nat} (h5 : tag < 5) (w : UInt32) :
    (encodeUInt32 tag w).length ≤ (Varint.encode w.toNat).length + 1 := by
  by_cases hw : w = 0
  · simp [encodeUInt32, hw]
  · have hkey := Key.length_encode .varint h5
    rw [encodeUInt32, if_neg hw, List.length_append]
    omega

/-- A word that was read is written in no more bytes, with a key of one byte. -/
theorem length_encodeUInt32_of_read {tag : Nat} (h5 : tag < 5) {wire : WireType} {name : FieldName}
    {b rest : Bytes} {w : UInt32}
    (h : within name (unnamed (readUInt32 wire b)) = .ok (w, rest)) :
    (encodeUInt32 tag w).length + rest.length ≤ b.length + 1 := by
  have hread := length_encode_of_readUInt32 (unnamed_eq_ok.mp (within_eq_ok.mp h))
  have hwritten := length_encodeUInt32_le_digits h5 w
  omega

theorem length_encodeDelimited {tag : Nat} (h5 : tag < 5) (b : Bytes) :
    (encodeDelimited tag b).length = (Varint.encode b.length).length + b.length + 1 := by
  have hkey := Key.length_encode .lengthDelimited h5
  rw [encodeDelimited, List.length_append, List.length_append]
  omega

theorem length_encodeBytes_le {tag : Nat} (h5 : tag < 5) (b : Bytes) :
    (encodeBytes tag b).length ≤ (Varint.encode b.length).length + b.length + 1 := by
  by_cases hb : b = []
  · simp [encodeBytes, hb]
  · have hlen := Nat.le_of_eq (length_encodeDelimited h5 b)
    simpa [encodeBytes, hb] using hlen

/-- The length of a request or a reply, field by field. -/
theorem Command.length_encode (c : Command) : c.encode.length =
    (encodeUInt32 1 c.sequence).length + (encodeUInt32 2 c.operation).length +
      (encodeUInt32 3 c.third).length + (encodeBytes 4 c.data).length := by
  simp only [Command.encode, List.length_append]

theorem eq_of_skipped {σ : Type} {s s' : σ} {levels : Nat} {key : Key} {b rest : Bytes}
    (h : (unnamed (skipValue levels key b)).map (s, ·) = .ok (s', rest)) : s' = s := by
  cases hs : unnamed (skipValue levels key b) with
  | error e => rw [hs] at h; cases h
  | ok rest' => rw [hs] at h; cases h; rfl

/-- A field of a request or a reply is stored in no more bytes than it was read from. -/
theorem Command.length_encode_of_readField {names : CommandNames} {levels : Nat} {c c' : Command}
    {key : Key} {b rest : Bytes} (h : c.readField names levels key b = .ok (c', rest)) :
    c'.encode.length + rest.length ≤ c.encode.length + b.length + 1 := by
  simp only [readField] at h
  rw [Command.length_encode, Command.length_encode]
  split at h
  · obtain ⟨w, hw, rfl⟩ := storing_eq_ok.mp h
    have hword := length_encodeUInt32_of_read (by decide : 1 < 5) hw
    simp only
    omega
  · obtain ⟨w, hw, rfl⟩ := storing_eq_ok.mp h
    have hword := length_encodeUInt32_of_read (by decide : 2 < 5) hw
    simp only
    omega
  · obtain ⟨w, hw, rfl⟩ := storing_eq_ok.mp h
    have hword := length_encodeUInt32_of_read (by decide : 3 < 5) hw
    simp only
    omega
  · obtain ⟨data, hd, rfl⟩ := storing_eq_ok.mp h
    have hread := length_encode_of_readBytes (unnamed_eq_ok.mp (within_eq_ok.mp hd))
    have hwritten := length_encodeBytes_le (by decide : 4 < 5) data
    simp only
    omega
  · have hrest := length_le_of_skipped h
    rw [eq_of_skipped h]
    omega

/-- The length of what a frame carries. -/
def bodyLength (body : Option FrameBody) : Nat := ((body.map encodeBody).getD []).length

theorem length_encodeFrame (f : Frame) : (encodeFrame f).length =
    (encodeUInt32 1 f.source).length + (encodeUInt32 2 f.target).length + bodyLength f.body := by
  simp only [encodeFrame, bodyLength, List.length_append]

/-- A body that comes in parts is written in no more bytes than its parts. -/
theorem length_encodeDelimited_of_readNested {names : CommandNames} {tag levels levels' : Nat}
    (h5 : tag < 5) {c c' : Command} {wire : WireType} {b rest : Bytes} {before : Nat}
    (hbefore : c.encode.length = 0 ∨ (encodeDelimited tag c.encode).length ≤ before)
    (h : (Command.reader names levels).readNested levels' c wire b = .ok (c', rest)) :
    (encodeDelimited tag c'.encode).length + rest.length ≤ before + b.length + 1 := by
  obtain ⟨count, hweight, hread⟩ := FieldReader.weight_readNested _
    (fun c : Command => c.encode.length)
    (FieldReader.weight_ofKeyed Command.length_encode_of_readField) h
  rw [length_encodeDelimited h5]
  have hdigits := Varint.length_encode_mono hweight
  rcases hbefore with hempty | hbefore
  · rw [hempty, Nat.zero_add] at hdigits hweight
    omega
  · have hsum := Varint.length_encode_add_le c.encode.length count
    rw [length_encodeDelimited h5] at hbefore
    omega

theorem bodyLength_toRequest (c : Command) :
    bodyLength (some (.request c.toRequest)) = (encodeDelimited 3 c.encode).length := rfl

theorem bodyLength_toResponse (c : Command) :
    bodyLength (some (.response c.toResponse)) = (encodeDelimited 4 c.encode).length := rfl

/-- The request that a request adds to is part of the frame, or there is none. -/
theorem requestSoFar_cases (body : Option FrameBody) : (requestSoFar body).encode.length = 0 ∨
    (encodeDelimited 3 (requestSoFar body).encode).length ≤ bodyLength body := by
  rcases body with _ | r | r
  · exact .inl rfl
  · exact .inr (Nat.le_refl _)
  · exact .inl rfl

/-- The reply that a reply adds to is part of the frame, or there is none. -/
theorem responseSoFar_cases (body : Option FrameBody) : (responseSoFar body).encode.length = 0 ∨
    (encodeDelimited 4 (responseSoFar body).encode).length ≤ bodyLength body := by
  rcases body with _ | r | r
  · exact .inl rfl
  · exact .inl rfl
  · exact .inr (Nat.le_refl _)

/-- A field of a frame is stored in no more bytes than it was read from. -/
theorem length_encodeFrame_of_readFrameField {f f' : Frame} {key : Key} {b rest : Bytes}
    (h : readFrameField f key b = .ok (f', rest)) :
    (encodeFrame f').length + rest.length ≤ (encodeFrame f).length + b.length + 1 := by
  simp only [readFrameField] at h
  rw [length_encodeFrame, length_encodeFrame]
  split at h
  · obtain ⟨w, hw, rfl⟩ := storing_eq_ok.mp h
    have hword := length_encodeUInt32_of_read (by decide : 1 < 5) hw
    simp only
    omega
  · obtain ⟨w, hw, rfl⟩ := storing_eq_ok.mp h
    have hword := length_encodeUInt32_of_read (by decide : 2 < 5) hw
    simp only
    omega
  · obtain ⟨c, hc, rfl⟩ := storing_eq_ok.mp h
    have hbody := length_encodeDelimited_of_readNested (by decide : 3 < 5)
      (requestSoFar_cases f.body) (within_eq_ok.mp hc)
    simp only [bodyLength_toRequest]
    omega
  · obtain ⟨c, hc, rfl⟩ := storing_eq_ok.mp h
    have hbody := length_encodeDelimited_of_readNested (by decide : 4 < 5)
      (responseSoFar_cases f.body) (within_eq_ok.mp hc)
    simp only [bodyLength_toResponse]
    omega
  · have hrest := length_le_of_skipped h
    rw [eq_of_skipped h]
    omega

/-- A frame is written in no more bytes than it was read from. -/
theorem length_encodeFrame_of_decodeFrame {b : Bytes} {f : Frame} (h : decodeFrame b = .ok f) :
    (encodeFrame f).length ≤ b.length := by
  unfold decodeFrame FieldReader.readAll at h
  cases hread : frameReader.readDownTo 0 ⟨0, 0, none⟩ b with
  | error e => rw [hread] at h; cases h
  | ok r =>
    obtain ⟨f', rest⟩ := r
    rw [hread] at h
    obtain rfl : f' = f := Except.ok.inj h
    have hweight := frameReader.weight_readDownTo (fun f => (encodeFrame f).length)
      (FieldReader.weight_ofKeyed length_encodeFrame_of_readFrameField) hread
    have hempty : (encodeFrame ⟨0, 0, none⟩).length = 0 := rfl
    omega

/-! ## Frames on a stream -/

/-- A frame that is too long is not written. -/
theorem encode_eq_error_iff {f : Frame} {e : CodecError} :
    encode f = .error e ↔
      maxFrameSize < (encodeFrame f).length ∧ e = .frameTooLarge (encodeFrame f).length := by
  simp only [encode]
  split
  · next h =>
    rw [Except.error.injEq]
    exact ⟨fun he => ⟨h, he.symm⟩, fun he => he.2.symm⟩
  · next h =>
    simp only [reduceCtorEq, false_iff, not_and]
    exact fun hlarge => absurd hlarge h

theorem decode_eq_some {b rest : Bytes} {f : Frame} (h : decode b = (.ok (some f), rest)) :
    ∃ body, front b = .frame body rest ∧ decodeFrame body = .ok f := by
  unfold decode at h
  split at h
  · cases h
  · cases h
  · next body rest' hfront =>
    split at h
    · next f' hf => cases h; exact ⟨body, hfront, hf⟩
    · cases h

/-- Writing a frame fails exactly if its bytes are too many, and says how many they are. Otherwise it
gives their number as a word, most significant byte first, and the bytes, and the frame is read back
from that, whatever follows. A frame that was read from any bytes can be written, in no more bytes
than it took, and is read back. -/
theorem codec_round_trip :
    (∀ (f : Frame) (e : CodecError), encode f = .error e ↔
      maxFrameSize < (encodeFrame f).length ∧ e = .frameTooLarge (encodeFrame f).length) ∧
    (∀ f : Frame, (encodeFrame f).length ≤ maxFrameSize →
      ∃ size : UInt32, size.toNat = (encodeFrame f).length ∧
        encode f = .ok (Bytes.be32 size ++ encodeFrame f) ∧
        ∀ rest, decode (Bytes.be32 size ++ encodeFrame f ++ rest) = (.ok (some f), rest)) ∧
    ∀ (b rest : Bytes) (f : Frame), decode b = (.ok (some f), rest) →
      ∃ taken bytes, b = taken ++ rest ∧ encode f = .ok bytes ∧ bytes.length ≤ taken.length ∧
        ∀ rest', decode (bytes ++ rest') = (.ok (some f), rest') := by
  refine ⟨fun _ _ => encode_eq_error_iff, ?_, ?_⟩
  · intro f hlen
    have henc := encode_eq_ok_iff.mpr ⟨hlen, rfl⟩
    exact ⟨_, UInt32.toNat_ofNat_of_lt' (Nat.lt_of_le_of_lt hlen (by decide)), henc,
      decode_encode henc⟩
  · intro b rest f h
    obtain ⟨body, hfront, hbody⟩ := decode_eq_some h
    obtain ⟨hmax, rfl⟩ := front_eq_frame_iff.mp hfront
    have hlen := length_encodeFrame_of_decodeFrame hbody
    have henc := encode_eq_ok_iff.mpr ⟨Nat.le_trans hlen hmax, rfl⟩
    refine ⟨framed body, _, rfl, henc, ?_, decode_encode henc⟩
    rw [framed, List.length_append, List.length_append, Bytes.length_be32, Bytes.length_be32]
    omega

/-- A frame with a number of two digits where one would do, a field that is not known, and a request
in two parts. -/
def wordyBody : Bytes := [8, 0x87, 0, 0x78, 1, 0x1a, 2, 8, 1, 0x1a, 2, 16, 5]

/-- The frame that it spells. -/
def plainFrame : Frame := ⟨7, 0, some (.request ⟨1, 5, 0, []⟩)⟩

theorem decodeFrame_wordyBody : decodeFrame wordyBody = .ok plainFrame := by
  have h : (decodeFrame wordyBody).toOption = some plainFrame := by decide +kernel
  cases hd : decodeFrame wordyBody with
  | error e => rw [hd] at h; cases h
  | ok f => rw [hd] at h; cases h; rfl

theorem codec_round_trip_wordyBody :
    ∃ taken bytes, framed wordyBody ++ [9] = taken ++ [9] ∧ encode plainFrame = .ok bytes ∧
      bytes.length ≤ taken.length ∧
      ∀ rest, decode (bytes ++ rest) = (.ok (some plainFrame), rest) := by
  have hread : decode (framed wordyBody ++ [9]) = (.ok (some plainFrame), [9]) := by
    rw [decode, front_framed (by decide)]
    simp only [decodeFrame_wordyBody]
  exact codec_round_trip.2.2 _ _ _ hread

end SignedControl.Wire
