import SignedControl.Wire.Stream

/-!
# Written frames are read back

A writer leaves out what a reader starts with: the word zero and the empty byte string. So a message
is read back field by field, each field either taken off the front or not there at all.

* `FieldReader.readDownTo_field`: a field that was written is read.
* `Command.readDownTo_encode`: requests and replies are read back.
* `decodeFrame_encodeFrame`: frames are read back.
* `decode_encode`: a frame on a stream is read back, and what follows it is left.
* `exists_encode`: a frame can be written unless its data come close to the greatest length.
-/

namespace SignedControl.Wire

/-! ## Single fields -/

theorem WireType.ofCode?_code (w : WireType) : ofCode? w.code = some w := by cases w <;> rfl

theorem WireType.code_lt (w : WireType) : w.code < 8 := by cases w <;> decide

theorem readVarint_encode {n : Nat} (h : n < UInt64.size) (rest : Bytes) :
    readVarint (Varint.encode n ++ rest) = .ok (n, rest) := by
  rw [readVarint, Varint.decode_encode h]

/-- A key whose number a reader takes. -/
structure Key.Valid (k : Key) : Prop where
  /-- Field numbers begin at one. -/
  tag_pos : 0 < k.tag
  /-- The key fits into 32 bits. -/
  code_lt : 8 * k.tag + k.wire.code < UInt32.size

theorem readKey_encode {k : Key} (h : k.Valid) (rest : Bytes) :
    readKey (k.encode ++ rest) = .ok (k, rest) := by
  have hlt := h.code_lt
  have hcode := k.wire.code_lt
  have hdiv : (8 * k.tag + k.wire.code) / 8 = k.tag := by omega
  have hmod : (8 * k.tag + k.wire.code) % 8 = k.wire.code := by omega
  have h64 : 8 * k.tag + k.wire.code < UInt64.size := Nat.lt_trans hlt (by decide)
  rw [readKey, Key.encode, readVarint_encode h64]
  simp only [hdiv, hmod, WireType.ofCode?_code]
  rw [if_neg (Nat.not_le.mpr hlt), if_neg (Nat.ne_of_gt h.tag_pos)]

theorem readUInt32_encode (w : UInt32) (rest : Bytes) :
    readUInt32 .varint (Varint.encode w.toNat ++ rest) = .ok (w, rest) := by
  have h64 : w.toNat < UInt64.size := Nat.lt_trans w.toNat_lt (by decide)
  simp only [readUInt32, expect, if_true, bind, Except.bind, readVarint_encode h64, pure,
    Except.pure, UInt32.ofNat_toNat]

theorem readBytes_encode {b : Bytes} (h : b.length < UInt64.size) (rest : Bytes) :
    readBytes .lengthDelimited (Varint.encode b.length ++ (b ++ rest)) = .ok (b, rest) := by
  simp only [readBytes, expect, if_true, bind, Except.bind, readVarint_encode h]
  exact takeBytes_eq_ok_iff.mpr ⟨rfl, rfl⟩

/-! ## Fields one after another -/

namespace FieldReader

variable {σ : Type} {value : σ → Key → Bytes → Except DecodeError (σ × Bytes)}
  {hvalue : ∀ {s s' key b rest}, value s key b = .ok (s', rest) → rest.length ≤ b.length}

theorem readDownTo_of_length_le (r : FieldReader σ) {limit : Nat} (s : σ) {b : Bytes}
    (h : b.length ≤ limit) : r.readDownTo limit s b = .ok (s, b) := by
  rw [readDownTo, List.drop_eq_nil_of_le h, List.isEmpty_nil, if_pos rfl]

theorem readDownTo_of_read (r : FieldReader σ) {limit : Nat} {s s' : σ} {b rest : Bytes}
    (hlt : limit < b.length) (h : r.read s b = .ok (s', rest)) :
    r.readDownTo limit s b = r.readDownTo limit s' rest := by
  have hdrop : (b.drop limit).isEmpty = false := by
    rw [List.isEmpty_eq_false_iff, ne_eq, List.drop_eq_nil_iff]
    exact Nat.not_le.mpr hlt
  rw [readDownTo, hdrop]
  simp only [Bool.false_eq_true, if_false]
  split
  · next e he => cases h.symm.trans he
  · next s₁ rest₁ he => cases h.symm.trans he; rfl

/-- A written field is read, if the reader has not come to its limit. -/
theorem readDownTo_field {key : Key} (hkey : key.Valid) {limit : Nat} {s s' : σ}
    {field rest : Bytes} (hread : value s key (field ++ rest) = .ok (s', rest))
    (hlimit : limit ≤ rest.length) :
    (ofKeyed value hvalue).readDownTo limit s (key.encode ++ field ++ rest) =
      (ofKeyed value hvalue).readDownTo limit s' rest := by
  have hr : (ofKeyed value hvalue).read s (key.encode ++ field ++ rest) = .ok (s', rest) := by
    rw [List.append_assoc]
    simp only [ofKeyed, bind, Except.bind, readKey_encode hkey, unnamed, hread]
  have hshrinks := (ofKeyed value hvalue).shrinks hr
  exact readDownTo_of_read _ (Nat.lt_of_le_of_lt hlimit hshrinks) hr

/-- A word is read; if it is zero, and so left out, the message has a zero already. -/
theorem readDownTo_encodeUInt32 {tag : Nat} (hkey : Key.Valid ⟨tag, .varint⟩) {limit : Nat}
    {s s' : σ} {w : UInt32} {rest : Bytes}
    (hread : value s ⟨tag, .varint⟩ (Varint.encode w.toNat ++ rest) = .ok (s', rest))
    (hzero : w = 0 → s' = s) (hlimit : limit ≤ rest.length) :
    (ofKeyed value hvalue).readDownTo limit s (encodeUInt32 tag w ++ rest) =
      (ofKeyed value hvalue).readDownTo limit s' rest := by
  by_cases hw : w = 0
  · simp [encodeUInt32, hw, hzero hw]
  · rw [encodeUInt32, if_neg hw]
    exact readDownTo_field hkey hread hlimit

/-- A byte string is read; if it is empty, and so left out, the message has the empty one
already. -/
theorem readDownTo_encodeBytes {tag : Nat} (hkey : Key.Valid ⟨tag, .lengthDelimited⟩)
    {limit : Nat} {s s' : σ} {b rest : Bytes}
    (hread : value s ⟨tag, .lengthDelimited⟩ (Varint.encode b.length ++ (b ++ rest)) =
      .ok (s', rest))
    (hnil : b = [] → s' = s) (hlimit : limit ≤ rest.length) :
    (ofKeyed value hvalue).readDownTo limit s (encodeBytes tag b ++ rest) =
      (ofKeyed value hvalue).readDownTo limit s' rest := by
  by_cases hb : b = []
  · simp [encodeBytes, hb, hnil hb]
  · have hfield : encodeBytes tag b =
        Key.encode ⟨tag, .lengthDelimited⟩ ++ (Varint.encode b.length ++ b) := by
      simp [encodeBytes, encodeDelimited, hb]
    rw [hfield]
    apply readDownTo_field hkey ?_ hlimit
    rw [List.append_assoc]
    exact hread

end FieldReader

/-! ## Requests, replies and frames -/

theorem length_data_le_encode (c : Command) : c.data.length ≤ c.encode.length := by
  have h : c.data.length ≤ (encodeBytes 4 c.data).length := by
    by_cases hnil : c.data = []
    · simp [hnil]
    · simp [encodeBytes, encodeDelimited, hnil]
      omega
  simp only [Command.encode, List.length_append]
  omega

/-- The keys of all fields. -/
theorem Key.valid_of_lt {tag : Nat} {wire : WireType} (h0 : 0 < tag) (h5 : tag < 5) :
    Key.Valid ⟨tag, wire⟩ := by
  have hcode := wire.code_lt
  exact ⟨h0, by simp only [UInt32.size]; omega⟩

/-- A request or a reply is read back, whatever follows it. -/
theorem Command.readDownTo_encode (names : CommandNames) (levels : Nat) {c : Command}
    (h : c.data.length < UInt64.size) (rest : Bytes) :
    (Command.reader names levels).readDownTo rest.length .empty (c.encode ++ rest) =
      .ok (c, rest) := by
  obtain ⟨sequence, operation, third, data⟩ := c
  have hsequence : ∀ b, readField names levels .empty ⟨1, .varint⟩
      (Varint.encode sequence.toNat ++ b) = .ok (⟨sequence, 0, 0, []⟩, b) := by
    intro b
    simp only [readField, readUInt32_encode, unnamed, within, storing, empty]
  have hoperation : ∀ b, readField names levels ⟨sequence, 0, 0, []⟩ ⟨2, .varint⟩
      (Varint.encode operation.toNat ++ b) = .ok (⟨sequence, operation, 0, []⟩, b) := by
    intro b
    simp only [readField, readUInt32_encode, unnamed, within, storing]
  have hthird : ∀ b, readField names levels ⟨sequence, operation, 0, []⟩ ⟨3, .varint⟩
      (Varint.encode third.toNat ++ b) = .ok (⟨sequence, operation, third, []⟩, b) := by
    intro b
    simp only [readField, readUInt32_encode, unnamed, within, storing]
  have hdata : ∀ b, readField names levels ⟨sequence, operation, third, []⟩ ⟨4, .lengthDelimited⟩
      (Varint.encode data.length ++ (data ++ b)) =
        .ok (⟨sequence, operation, third, data⟩, b) := by
    intro b
    simp only [readField, readBytes_encode h, unnamed, within, storing]
  -- What follows a field is at least as long as what follows the message.
  simp only [Command.encode, List.append_assoc]
  rw [reader,
    FieldReader.readDownTo_encodeUInt32 (Key.valid_of_lt (by decide) (by decide)) (hsequence _)
      (by rintro rfl; rfl) (by simp only [List.length_append]; omega),
    FieldReader.readDownTo_encodeUInt32 (Key.valid_of_lt (by decide) (by decide)) (hoperation _)
      (by rintro rfl; rfl) (by simp only [List.length_append]; omega),
    FieldReader.readDownTo_encodeUInt32 (Key.valid_of_lt (by decide) (by decide)) (hthird _)
      (by rintro rfl; rfl) (by simp only [List.length_append]; omega),
    FieldReader.readDownTo_encodeBytes (Key.valid_of_lt (by decide) (by decide)) (hdata _)
      (by rintro rfl; rfl) (Nat.le_refl _)]
  exact FieldReader.readDownTo_of_length_le _ _ (Nat.le_refl _)

/-- A nested request or reply is read back, whatever follows it. -/
theorem Command.readNested_encode (names : CommandNames) {levels : Nat} (hlevels : levels ≠ 0)
    {c : Command} (h : c.encode.length < UInt64.size) (rest : Bytes) :
    (Command.reader names (levels - 1)).readNested levels .empty .lengthDelimited
      (Varint.encode c.encode.length ++ (c.encode ++ rest)) = .ok (c, rest) := by
  have hdata : c.data.length < UInt64.size := Nat.lt_of_le_of_lt (length_data_le_encode c) h
  have hroom : ¬ (c.encode ++ rest).length < c.encode.length := by
    rw [List.length_append]; omega
  have hrest : (c.encode ++ rest).length - c.encode.length = rest.length := by
    rw [List.length_append]; omega
  simp only [FieldReader.readNested, bind, Except.bind, pure, Except.pure, expect, if_true, unnamed,
    hlevels, if_false, readVarint_encode h, hroom, hrest, Command.readDownTo_encode names _ hdata,
    ne_eq, not_true_eq_false]

theorem length_le_encodeDelimited (tag : Nat) (b : Bytes) :
    b.length ≤ (encodeDelimited tag b).length := by
  simp only [encodeDelimited, List.length_append]
  omega

/-- The body of a frame is its last field. -/
theorem readDownTo_bodyField {f f' : Frame} {tag : Nat} {b : Bytes} (h0 : 0 < tag) (h5 : tag < 5)
    (hread : readFrameField f ⟨tag, .lengthDelimited⟩ (Varint.encode b.length ++ (b ++ [])) =
      .ok (f', [])) :
    frameReader.readDownTo 0 f (encodeDelimited tag b) = .ok (f', []) := by
  have hfield : encodeDelimited tag b =
      Key.encode ⟨tag, .lengthDelimited⟩ ++ (Varint.encode b.length ++ b) ++ [] := by
    simp [encodeDelimited]
  rw [hfield, frameReader,
    FieldReader.readDownTo_field (Key.valid_of_lt h0 h5) _ (Nat.zero_le _)]
  · exact FieldReader.readDownTo_of_length_le _ _ (Nat.le_refl _)
  · rw [List.append_assoc]
    exact hread

/-- The body of a frame is read back. -/
theorem readDownTo_encodeBody (source target : UInt32) {body : FrameBody}
    (h : (encodeBody body).length < UInt64.size) :
    frameReader.readDownTo 0 ⟨source, target, none⟩ (encodeBody body) =
      .ok (⟨source, target, some body⟩, []) := by
  have hlevels : maxLevels ≠ 0 := by decide
  cases body with
  | request r =>
    have hlen := Nat.lt_of_le_of_lt (length_le_encodeDelimited 3 _) h
    apply readDownTo_bodyField (by decide) (by decide)
    simp only [readFrameField, requestSoFar, Command.readNested_encode requestNames hlevels hlen,
      within, storing, Command.toRequest_ofRequest]
  | response r =>
    have hlen := Nat.lt_of_le_of_lt (length_le_encodeDelimited 4 _) h
    apply readDownTo_bodyField (by decide) (by decide)
    simp only [readFrameField, responseSoFar, Command.readNested_encode responseNames hlevels hlen,
      within, storing, Command.toResponse_ofResponse]

/-- A frame is read back. -/
theorem decodeFrame_encodeFrame {f : Frame} (h : (encodeFrame f).length < UInt64.size) :
    decodeFrame (encodeFrame f) = .ok f := by
  obtain ⟨source, target, body⟩ := f
  have hsource : ∀ b, readFrameField ⟨0, 0, none⟩ ⟨1, .varint⟩ (Varint.encode source.toNat ++ b) =
      .ok (⟨source, 0, none⟩, b) := by
    intro b
    simp only [readFrameField, readUInt32_encode, unnamed, within, storing]
  have htarget : ∀ b, readFrameField ⟨source, 0, none⟩ ⟨2, .varint⟩
      (Varint.encode target.toNat ++ b) = .ok (⟨source, target, none⟩, b) := by
    intro b
    simp only [readFrameField, readUInt32_encode, unnamed, within, storing]
  have hbody : frameReader.readDownTo 0 ⟨source, target, none⟩ ((body.map encodeBody).getD []) =
      .ok (⟨source, target, body⟩, []) := by
    cases body with
    | none => exact FieldReader.readDownTo_of_length_le _ _ (Nat.le_refl _)
    | some body =>
      refine readDownTo_encodeBody source target (Nat.lt_of_le_of_lt ?_ h)
      simp only [encodeFrame, Option.map_some, Option.getD_some, List.length_append]
      omega
  rw [decodeFrame, FieldReader.readAll, encodeFrame, List.append_assoc, frameReader,
    FieldReader.readDownTo_encodeUInt32 (Key.valid_of_lt (by decide) (by decide)) (hsource _)
      (by rintro rfl; rfl) (Nat.zero_le _),
    FieldReader.readDownTo_encodeUInt32 (Key.valid_of_lt (by decide) (by decide)) (htarget _)
      (by rintro rfl; rfl) (Nat.zero_le _)]
  rw [frameReader] at hbody
  rw [hbody]
  rfl

/-! ## Frames on a stream -/

theorem encode_eq_ok_iff {f : Frame} {bytes : Bytes} :
    encode f = .ok bytes ↔ (encodeFrame f).length ≤ maxFrameSize ∧
      bytes = Bytes.be32 (UInt32.ofNat (encodeFrame f).length) ++ encodeFrame f := by
  simp only [encode]
  split
  · next h => simp only [reduceCtorEq, false_iff, not_and]; omega
  · next h =>
    rw [Except.ok.injEq]
    exact ⟨fun he => ⟨Nat.not_lt.mp h, he.symm⟩, fun he => he.2.symm⟩

/-- What stands behind a length. -/
theorem front_be32_append (size : UInt32) (stream : Bytes) :
    front (Bytes.be32 size ++ stream) =
      if maxFrameSize < size.toNat then .invalidLength size
      else if (stream.take size.toNat).length < size.toNat then .incomplete
      else .frame (stream.take size.toNat) (stream.drop size.toNat) := by
  have hsize : Bytes.ofBE32 (UInt8.ofNat (size.toNat / 16777216)) (UInt8.ofNat (size.toNat / 65536))
      (UInt8.ofNat (size.toNat / 256)) (UInt8.ofNat size.toNat) = size := Bytes.ofLE32_le32 size
  rw [Bytes.be32, Bytes.le32]
  simp only [List.reverse_cons, List.reverse_nil, List.nil_append, List.cons_append]
  rw [front, hsize]

/-- The length in front says where a frame ends. -/
theorem front_frame {body : Bytes} (h : body.length ≤ maxFrameSize) (rest : Bytes) :
    front (Bytes.be32 (UInt32.ofNat body.length) ++ (body ++ rest)) = .frame body rest := by
  have hsize : (UInt32.ofNat body.length).toNat = body.length :=
    UInt32.toNat_ofNat_of_lt' (Nat.lt_of_le_of_lt h (by decide))
  rw [front_be32_append, hsize, List.take_left, List.drop_left, if_neg (Nat.not_lt.mpr h),
    if_neg (Nat.lt_irrefl _)]

/-- A frame that is written is read back, and what follows it is left. -/
theorem decode_encode {f : Frame} {bytes : Bytes} (h : encode f = .ok bytes) (rest : Bytes) :
    decode (bytes ++ rest) = (.ok (some f), rest) := by
  obtain ⟨hlen, rfl⟩ := encode_eq_ok_iff.mp h
  have h64 : (encodeFrame f).length < UInt64.size := Nat.lt_of_le_of_lt hlen (by decide)
  rw [decode, List.append_assoc, front_frame hlen]
  simp only [decodeFrame_encodeFrame h64]

/-! ## The length of a frame -/

/-- A number has no more digits than the places it needs. -/
theorem Varint.length_encode_le (places : Nat) {n : Nat} (h0 : 0 < places)
    (h : n < Nat.pow 128 places) : (encode n).length ≤ places := by
  induction places generalizing n with
  | zero => omega
  | succ places ih =>
    have hn : n < Nat.pow 128 places * 128 := h
    unfold encode
    split
    · exact h0
    · next hlarge =>
      have hplaces : 0 < places := by
        refine Nat.pos_of_ne_zero fun hzero => ?_
        subst hzero
        simp at hn
        omega
      have hrest := ih hplaces (n := n / 128) (by omega)
      simp only [List.length_cons]
      omega

/-- The keys of all fields have one digit. -/
theorem Key.length_encode {tag : Nat} (wire : WireType) (h5 : tag < 5) :
    (Key.encode ⟨tag, wire⟩).length = 1 := by
  have hcode := wire.code_lt
  rw [Key.encode, Varint.encode, if_pos (by simp only; omega), List.length_singleton]

theorem length_encodeUInt32_le {tag : Nat} (h5 : tag < 5) (w : UInt32) :
    (encodeUInt32 tag w).length ≤ 6 := by
  by_cases hw : w = 0
  · simp [encodeUInt32, hw]
  · rw [encodeUInt32, if_neg hw]
    have hkey := Key.length_encode .varint h5
    have hvalue := Varint.length_encode_le 5 (by decide)
      (Nat.lt_trans w.toNat_lt (by decide))
    rw [List.length_append]
    omega

theorem length_encodeDelimited_le {tag : Nat} (h5 : tag < 5) {b : Bytes}
    (hb : b.length < Nat.pow 128 3) : (encodeDelimited tag b).length ≤ b.length + 4 := by
  have hkey := Key.length_encode .lengthDelimited h5
  have hlength := Varint.length_encode_le 3 (by decide) hb
  rw [encodeDelimited, List.length_append, List.length_append]
  omega

/-- The shape of what a frame carries. -/
def Command.ofBody : FrameBody → Command
  | .request r => .ofRequest r
  | .response r => .ofResponse r

theorem Command.length_encode_le {c : Command} (h : c.data.length < Nat.pow 128 3) :
    c.encode.length ≤ c.data.length + 22 := by
  have hdata : (encodeBytes 4 c.data).length ≤ c.data.length + 4 := by
    by_cases hnil : c.data = []
    · simp [encodeBytes, hnil]
    · have hlen := length_encodeDelimited_le (by decide : 4 < 5) h
      simpa [encodeBytes, hnil] using hlen
  have h1 := length_encodeUInt32_le (by decide : 1 < 5) c.sequence
  have h2 := length_encodeUInt32_le (by decide : 2 < 5) c.operation
  have h3 := length_encodeUInt32_le (by decide : 3 < 5) c.third
  simp only [Command.encode, List.length_append]
  omega

theorem length_encodeBody_le {body : FrameBody}
    (h : (Command.ofBody body).data.length + 22 < Nat.pow 128 3) :
    (encodeBody body).length ≤ (Command.ofBody body).data.length + 26 := by
  have hlen := Command.length_encode_le (c := .ofBody body) (by omega)
  have hsmall : (Command.ofBody body).encode.length < Nat.pow 128 3 := by omega
  cases body with
  | request r =>
    have hbody := length_encodeDelimited_le (by decide : 3 < 5) hsmall
    exact Nat.le_trans hbody (Nat.add_le_add_right hlen 4)
  | response r =>
    have hbody := length_encodeDelimited_le (by decide : 4 < 5) hsmall
    exact Nat.le_trans hbody (Nat.add_le_add_right hlen 4)

/-- The keys, words and lengths of a frame take no more than 38 bytes. -/
theorem exists_encode {f : Frame} (h : ∀ body, f.body = some body →
    (Command.ofBody body).data.length + 38 ≤ maxFrameSize) : ∃ bytes, encode f = .ok bytes := by
  have hmax : maxFrameSize < Nat.pow 128 3 := by decide
  have hbody : ((f.body.map encodeBody).getD []).length + 12 ≤ maxFrameSize := by
    cases hb : f.body with
    | none => simp [maxFrameSize]
    | some body =>
      have hdata := h body hb
      have hlen : (encodeBody body).length ≤ (Command.ofBody body).data.length + 26 := by
        apply length_encodeBody_le
        omega
      simp only [Option.map_some, Option.getD_some]
      omega
  have h1 := length_encodeUInt32_le (by decide : 1 < 5) f.source
  have h2 := length_encodeUInt32_le (by decide : 2 < 5) f.target
  refine ⟨_, encode_eq_ok_iff.mpr ⟨?_, rfl⟩⟩
  simp only [encodeFrame, List.length_append]
  omega

end SignedControl.Wire
