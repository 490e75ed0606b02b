import SignedControl.Firmware.Image
import SignedControl.Proofs.Dialogue.KeyAgreement

/-!
# The form of a signed image

A signed image is an image and, behind it, a descriptor that tells how long the image is. `WellFormed`
says so by writing the two down one behind the other; the functions here go the other way, from the
end of a byte string, and find an image and a descriptor exactly where there are some. What an image
holds does not matter for this: it may be empty, or hold the mark of a descriptor anywhere but at the
place where its own descriptor would stand.

* `Descriptor.exists_eq_toBytes`: eighty bytes that begin with the mark are those of a descriptor.
* `split_append`: all that a byte string of eighty bytes or more can be.
* `split_eq_ok_iff`, `verifyImage_eq_ok_iff`, `verifyWithKeys_eq_ok_iff`: what is accepted.
* `signed_image_exact`: the form of a signed image, in full.
* `sign_round_trip`: what becomes of an image that is signed.
-/

namespace SignedControl

/-- Four bytes are those of a word. -/
theorem Bytes.exists_le32_append {b : Bytes} (h : 4 ≤ b.length) : ∃ w rest, b = le32 w ++ rest := by
  obtain ⟨b0, b, rfl⟩ := List.exists_cons_of_length_pos (l := b) (by omega)
  obtain ⟨b1, b, rfl⟩ := List.exists_cons_of_length_pos (l := b) (by simp at h; omega)
  obtain ⟨b2, b, rfl⟩ := List.exists_cons_of_length_pos (l := b) (by simp at h; omega)
  obtain ⟨b3, b, rfl⟩ := List.exists_cons_of_length_pos (l := b) (by simp at h; omega)
  refine ⟨ofLE32 b0 b1 b2 b3, b, ?_⟩
  rw [le32_ofLE32]
  rfl

namespace Firmware

/-! ## Descriptors -/

namespace Descriptor

theorem magic_prefix_toBytes (d : Descriptor) : descriptorMagic <+: d.toBytes := by
  unfold toBytes
  simp only [List.append_assoc]
  exact List.prefix_append _ _

/-- Eighty bytes that begin with the mark are the bytes of a descriptor. -/
theorem exists_eq_toBytes {b : Bytes} (hlen : b.length = descriptorLength)
    (hmagic : descriptorMagic <+: b) : ∃ d : Descriptor, b = d.toBytes := by
  obtain ⟨tail, rfl⟩ := hmagic
  simp only [List.length_append, descriptorMagic, List.length_cons, List.length_nil,
    descriptorLength] at hlen
  obtain ⟨boardId, tail, rfl⟩ := Bytes.exists_le32_append (b := tail) (by omega)
  simp only [List.length_append, Bytes.length_le32] at hlen
  obtain ⟨imageLength, tail, rfl⟩ := Bytes.exists_le32_append (b := tail) (by omega)
  simp only [List.length_append, Bytes.length_le32] at hlen
  have hsignature : tail.length = signatureLength := by
    unfold signatureLength
    omega
  refine ⟨⟨boardId, imageLength, ⟨tail, hsignature⟩⟩, ?_⟩
  unfold toBytes
  simp only [List.append_assoc]

theorem ofBytes?_eq_some_iff {b : Bytes} {d : Descriptor} : ofBytes? b = some d ↔ b = d.toBytes := by
  constructor
  · exact toBytes_of_ofBytes?
  · rintro rfl
    exact ofBytes?_toBytes d

/-- Of eighty bytes only the mark decides whether they are a descriptor. -/
theorem ofBytes?_eq_none_iff {b : Bytes} (hlen : b.length = descriptorLength) :
    ofBytes? b = none ↔ ¬ descriptorMagic <+: b := by
  constructor
  · intro hnone hmagic
    obtain ⟨d, rfl⟩ := exists_eq_toBytes hlen hmagic
    rw [ofBytes?_toBytes] at hnone
    cases hnone
  · intro hmagic
    cases hd : ofBytes? b with
    | none => rfl
    | some d =>
      rw [ofBytes?_eq_some_iff] at hd
      exact absurd (hd ▸ d.magic_prefix_toBytes) hmagic

end Descriptor

/-! ## Signed images -/

/-- A signed image: an image, and behind it a descriptor that tells how long the image is. -/
structure WellFormed (signed body : Bytes) (d : Descriptor) : Prop where
  /-- The descriptor stands behind the image. -/
  signed_eq : signed = body ++ d.toBytes
  /-- It tells the image's length. -/
  imageLength_eq : d.imageLength.toNat = body.length

theorem length_append_trailer {body trailer : Bytes} (h : trailer.length = descriptorLength) :
    (body ++ trailer).length = body.length + descriptorLength := by
  rw [List.length_append, h]

/-- A byte string that is long enough has eighty bytes at its end. -/
theorem exists_trailer {signed : Bytes} (h : descriptorLength ≤ signed.length) :
    ∃ body trailer, signed = body ++ trailer ∧ trailer.length = descriptorLength := by
  refine ⟨_, _, (List.take_append_drop (signed.length - descriptorLength) signed).symm, ?_⟩
  rw [List.length_drop]
  omega

theorem drop_trailer {body trailer : Bytes} (h : trailer.length = descriptorLength) :
    (body ++ trailer).drop ((body ++ trailer).length - descriptorLength) = trailer := by
  rw [length_append_trailer h, Nat.add_sub_cancel, List.drop_left]

/-- The last eighty bytes, and the number of bytes in front of them, decide. -/
theorem split_append {body trailer : Bytes} (h : trailer.length = descriptorLength) :
    split (body ++ trailer) =
      match Descriptor.ofBytes? trailer with
      | none => .error (.lengthMismatch body.length (body.length + descriptorLength))
      | some d =>
        if d.imageLength.toNat = body.length then .ok (body, d)
        else .error (.lengthMismatch body.length d.imageLength.toNat) := by
  have hlen : (body ++ trailer).length = body.length + descriptorLength := length_append_trailer h
  have hbody : (body ++ trailer).take ((body ++ trailer).length - descriptorLength) = body := by
    rw [hlen, Nat.add_sub_cancel, List.take_left]
  unfold split
  rw [if_neg (by omega)]
  simp only [drop_trailer h, hbody]
  cases Descriptor.ofBytes? trailer with
  | none => rw [hlen]
  | some d => rfl

theorem split_of_length_lt {signed : Bytes} (h : signed.length < descriptorLength) :
    split signed = .error (.missingDescriptor signed.length) := if_pos h

/-- An image is split exactly where it is well-formed. -/
theorem split_eq_ok_iff {signed body : Bytes} {d : Descriptor} :
    split signed = .ok (body, d) ↔ WellFormed signed body d := by
  constructor
  · intro h
    by_cases hlen : signed.length < descriptorLength
    · rw [split_of_length_lt hlen] at h
      cases h
    · obtain ⟨front, trailer, rfl, htrailer⟩ := exists_trailer (Nat.not_lt.mp hlen)
      rw [split_append htrailer] at h
      split at h
      · cases h
      · next d' hd =>
        split at h
        · next himage =>
          cases h
          exact ⟨by rw [Descriptor.ofBytes?_eq_some_iff.mp hd], himage⟩
        · cases h
  · rintro ⟨rfl, himage⟩
    rw [split_append d.length_toBytes, d.ofBytes?_toBytes]
    simp only [himage, if_true]

/-- There is one way at most to split an image. -/
theorem WellFormed.unique {signed body body' : Bytes} {d d' : Descriptor}
    (h : WellFormed signed body d) (h' : WellFormed signed body' d') : body = body' ∧ d = d' := by
  have hok := (split_eq_ok_iff.mpr h).symm.trans (split_eq_ok_iff.mpr h')
  cases hok
  exact ⟨rfl, rfl⟩

/-- Why a byte string that is long enough is not well-formed. -/
theorem split_of_not_wellFormed {signed : Bytes} (hlen : descriptorLength ≤ signed.length)
    (h : ∀ body d, ¬ WellFormed signed body d) :
    ∃ actual, split signed = .error (.lengthMismatch (signed.length - descriptorLength) actual) ∧
      (¬ descriptorMagic <+: signed.drop (signed.length - descriptorLength) ∧
          actual = signed.length ∨
        ∃ (body : Bytes) (d : Descriptor),
          signed = body ++ d.toBytes ∧ actual = d.imageLength.toNat) := by
  obtain ⟨body, trailer, rfl, htrailer⟩ := exists_trailer hlen
  rw [split_append htrailer, drop_trailer htrailer, length_append_trailer htrailer,
    Nat.add_sub_cancel]
  cases hd : Descriptor.ofBytes? trailer with
  | none =>
    exact ⟨_, rfl, .inl ⟨(Descriptor.ofBytes?_eq_none_iff htrailer).mp hd, rfl⟩⟩
  | some d =>
    rw [Descriptor.ofBytes?_eq_some_iff] at hd
    have himage : ¬ d.imageLength.toNat = body.length := fun himage =>
      h body d ⟨by rw [hd], himage⟩
    simp only [himage, if_false]
    exact ⟨_, rfl, .inr ⟨body, d, by rw [hd], rfl⟩⟩

/-! ## Verifying -/

/-- Only the mark is looked for, eighty bytes from the end. -/
theorem isSigned_iff {image : Bytes} : isSigned image = true ↔
    descriptorLength ≤ image.length ∧
      descriptorMagic <+: image.drop (image.length - descriptorLength) := by
  unfold isSigned
  rw [Bool.and_eq_true, decide_eq_true_iff, beq_iff_eq, List.prefix_iff_eq_take, eq_comm]

namespace WellFormed

variable {signed body : Bytes} {d : Descriptor}

theorem isSigned (h : WellFormed signed body d) : isSigned signed = true := by
  obtain ⟨rfl, -⟩ := h
  rw [isSigned_iff, drop_trailer d.length_toBytes, length_append_trailer d.length_toBytes]
  exact ⟨Nat.le_add_left _ _, d.magic_prefix_toBytes⟩

theorem strip_eq (h : WellFormed signed body d) : strip signed = .ok body := by
  rw [strip, split_eq_ok_iff.mpr h]
  rfl

variable [SignatureScheme]

theorem verifyImage_eq (h : WellFormed signed body d) (key : PublicKey) :
    verifyImage signed key =
      if key.verify body d.signature.bytes then .ok (d.boardId, true)
      else .error .signatureInvalid := by
  rw [verifyImage, split_eq_ok_iff.mpr h]

theorem verifyWithKeys_eq (h : WellFormed signed body d) {keys : List PublicKey}
    (hkeys : keys ≠ []) :
    verifyWithKeys signed keys =
      if keys.any (·.verify body d.signature.bytes) then .ok d else .error .signatureInvalid := by
  rw [verifyWithKeys, if_neg (by simpa using hkeys), split_eq_ok_iff.mpr h]

end WellFormed

section Verifying

variable [SignatureScheme]

theorem verifyImage_eq_ok_iff {signed : Bytes} {key : PublicKey} {boardId : UInt32} {valid : Bool} :
    verifyImage signed key = .ok (boardId, valid) ↔
      valid = true ∧ ∃ body d, WellFormed signed body d ∧ d.boardId = boardId ∧
        key.verify body d.signature.bytes = true := by
  constructor
  · intro h
    cases hs : split signed with
    | error e =>
      rw [verifyImage, hs] at h
      cases h
    | ok p =>
      obtain ⟨body, d⟩ := p
      have hform := split_eq_ok_iff.mp hs
      rw [hform.verifyImage_eq] at h
      split at h
      · next hv =>
        cases h
        exact ⟨rfl, body, d, hform, rfl, hv⟩
      · cases h
  · rintro ⟨rfl, body, d, hform, rfl, hv⟩
    rw [hform.verifyImage_eq, if_pos hv]

theorem verifyWithKeys_eq_ok_iff {signed : Bytes} {keys : List PublicKey} {d : Descriptor} :
    verifyWithKeys signed keys = .ok d ↔
      ∃ body, WellFormed signed body d ∧ ∃ key ∈ keys, key.verify body d.signature.bytes = true := by
  by_cases hkeys : keys = []
  · subst hkeys
    constructor
    · rintro ⟨⟩
    · rintro ⟨_, _, _, ⟨⟩, _⟩
  · constructor
    · intro h
      cases hs : split signed with
      | error e =>
        rw [verifyWithKeys, if_neg (by simpa using hkeys), hs] at h
        cases h
      | ok p =>
        obtain ⟨body, d'⟩ := p
        have hform := split_eq_ok_iff.mp hs
        rw [hform.verifyWithKeys_eq hkeys] at h
        split at h
        · next hv =>
          cases h
          exact ⟨body, hform, List.any_eq_true.mp hv⟩
        · cases h
    · rintro ⟨body, hform, hv⟩
      rw [hform.verifyWithKeys_eq hkeys, if_pos (List.any_eq_true.mpr hv)]

/-- Which keys are listed matters, and not how. -/
theorem verifyWithKeys_congr {keys keys' : List PublicKey} (h : ∀ key, key ∈ keys ↔ key ∈ keys')
    (signed : Bytes) : verifyWithKeys signed keys = verifyWithKeys signed keys' := by
  have hempty : keys.isEmpty = keys'.isEmpty := by
    rw [Bool.eq_iff_iff, List.isEmpty_iff, List.isEmpty_iff, List.eq_nil_iff_forall_not_mem,
      List.eq_nil_iff_forall_not_mem]
    exact forall_congr' fun key => not_congr (h key)
  have hany : ∀ p : PublicKey → Bool, keys.any p = keys'.any p := by
    intro p
    rw [Bool.eq_iff_iff, List.any_eq_true, List.any_eq_true]
    exact exists_congr fun key => and_congr_left fun _ => h key
  unfold verifyWithKeys
  simp only [hempty, hany]

/-- The form of a signed image. Descriptors and the byte strings of eighty bytes that begin with the
mark are the same thing written in two ways. A byte string is split into an image and a descriptor
exactly if it is the one behind the other and the descriptor tells the image's length; if it is not, it
is too short, or there is no mark, or the descriptor tells another length, and the error says so. One
key verifies an image exactly if it verifies the descriptor's signature of what stands before the
descriptor, and the answer is then the descriptor's board; several keys verify an image exactly if one
of them does, and then the descriptor is found, whatever the order of the keys and however often each of
them is listed. -/
theorem signed_image_exact :
    (∀ d : Descriptor, d.toBytes.length = descriptorLength ∧ descriptorMagic <+: d.toBytes ∧
      Descriptor.ofBytes? d.toBytes = some d) ∧
    (∀ b : Bytes, b.length = descriptorLength →
      (descriptorMagic <+: b → ∃ d, Descriptor.ofBytes? b = some d ∧ d.toBytes = b) ∧
      (¬ descriptorMagic <+: b → Descriptor.ofBytes? b = none)) ∧
    ∀ signed : Bytes,
      (∀ body d, split signed = .ok (body, d) ↔
        signed = body ++ d.toBytes ∧ d.imageLength.toNat = body.length) ∧
      ((∀ body d, ¬ WellFormed signed body d) →
        (signed.length < descriptorLength →
          split signed = .error (.missingDescriptor signed.length)) ∧
        (descriptorLength ≤ signed.length → ∃ actual,
          split signed = .error (.lengthMismatch (signed.length - descriptorLength) actual) ∧
          (¬ descriptorMagic <+: signed.drop (signed.length - descriptorLength) ∧
              actual = signed.length ∨
            ∃ (body : Bytes) (d : Descriptor),
              signed = body ++ d.toBytes ∧ actual = d.imageLength.toNat))) ∧
      (∀ key boardId valid, verifyImage signed key = .ok (boardId, valid) ↔
        valid = true ∧ ∃ body d, WellFormed signed body d ∧ d.boardId = boardId ∧
          key.verify body d.signature.bytes = true) ∧
      (∀ keys d, verifyWithKeys signed keys = .ok d ↔
        ∃ body, WellFormed signed body d ∧
          ∃ key ∈ keys, key.verify body d.signature.bytes = true) ∧
      ∀ keys keys' : List PublicKey, (∀ key, key ∈ keys ↔ key ∈ keys') →
        verifyWithKeys signed keys = verifyWithKeys signed keys' := by
  refine ⟨fun d => ⟨d.length_toBytes, d.magic_prefix_toBytes, d.ofBytes?_toBytes⟩, ?_, ?_⟩
  · intro b hlen
    refine ⟨fun hmagic => ?_, (Descriptor.ofBytes?_eq_none_iff hlen).mpr⟩
    obtain ⟨d, rfl⟩ := Descriptor.exists_eq_toBytes hlen hmagic
    exact ⟨d, d.ofBytes?_toBytes, rfl⟩
  · intro signed
    refine ⟨fun body d => ?_, fun h => ⟨split_of_length_lt, fun hlen => ?_⟩,
      fun _ _ _ => verifyImage_eq_ok_iff, fun _ _ => verifyWithKeys_eq_ok_iff,
      fun _ _ h => verifyWithKeys_congr h signed⟩
    · rw [split_eq_ok_iff]
      exact ⟨fun h => ⟨h.signed_eq, h.imageLength_eq⟩, fun h => ⟨h.1, h.2⟩⟩
    · exact split_of_not_wellFormed hlen h

end Verifying

/-! ### An image that is the mark of a descriptor -/

section KeyedHash

attribute [local instance] Line.keyedHash Line.lawful_keyedHash

/-- The descriptor of the eight bytes of the mark, as an operator signs them for board seven. -/
def markDescriptor : Descriptor := ⟨7, 8, Dialogue.operator.sign descriptorMagic⟩

/-- The signed image. -/
def signedMark : Bytes := descriptorMagic ++ markDescriptor.toBytes

/-- Somebody else's key. -/
def otherKey : PublicKey := ⟨Block.fill keyLength 2⟩

theorem wellFormed_signedMark : WellFormed signedMark descriptorMagic markDescriptor := ⟨rfl, rfl⟩

theorem verify_mark : Dialogue.operator.publicKey.verify descriptorMagic
    markDescriptor.signature.bytes = true := PublicKey.verify_sign Dialogue.operator descriptorMagic

theorem signed_image_exact_mark :
    split signedMark = .ok (descriptorMagic, markDescriptor) ∧
      verifyImage signedMark Dialogue.operator.publicKey = .ok (7, true) ∧
      verifyWithKeys signedMark [otherKey, Dialogue.operator.publicKey, otherKey] =
        .ok markDescriptor ∧
      ∃ actual, split (List.replicate 80 0) = .error (.lengthMismatch 0 actual) := by
  obtain ⟨-, -, hform⟩ := signed_image_exact
  obtain ⟨hsplit, -, hone, hmany, -⟩ := hform signedMark
  refine ⟨(hsplit _ _).mpr ⟨wellFormed_signedMark.signed_eq, wellFormed_signedMark.imageLength_eq⟩,
    (hone _ _ _).mpr ⟨rfl, _, _, wellFormed_signedMark, rfl, verify_mark⟩,
    (hmany _ _).mpr ⟨_, wellFormed_signedMark, _, ?_, verify_mark⟩, ?_⟩
  · exact List.mem_cons_of_mem _ List.mem_cons_self
  · obtain ⟨actual, hactual, -⟩ := ((hform (List.replicate 80 0)).2.1 fun body d h =>
      absurd h.isSigned (by decide)).2 (by decide)
    exact ⟨actual, hactual⟩

end KeyedHash

/-! ## Signing -/

section Signing

variable [SignatureScheme]

theorem sign_of_isSigned {image : Bytes} (h : isSigned image = true) (key : PrivateKey)
    (boardId : UInt32) : sign image key boardId = .error .alreadySigned := if_pos h

/-- Nothing else is refused. -/
theorem sign_eq_error_iff {image : Bytes} {key : PrivateKey} {boardId : UInt32} {e : Error} :
    sign image key boardId = .error e ↔
      isSigned image = true ∧ e = .alreadySigned ∨
        ¬ isSigned image = true ∧ UInt32.size ≤ image.length ∧
          e = .lengthMismatch (UInt32.size - 1) image.length := by
  rw [sign_eq]
  split
  · next hs => simp [hs, eq_comm]
  · next hs =>
    split
    · next hlong => simp [hs, hlong, eq_comm]
    · next hfits => simp [hs, hfits]

/-- A signed image is well-formed, and its descriptor holds what it was signed with. -/
theorem wellFormed_of_sign {image signed : Bytes} {key : PrivateKey} {boardId : UInt32}
    (h : sign image key boardId = .ok signed) :
    WellFormed signed image ⟨boardId, UInt32.ofNat image.length, key.sign image⟩ := by
  rw [sign_eq] at h
  split at h
  · cases h
  · split at h
    · cases h
    · next hshort =>
      cases h
      exact ⟨rfl, UInt32.toNat_ofNat_of_lt' (Nat.not_le.mp hshort)⟩

theorem verifyImage_of_sign [LawfulSignatureScheme] {image signed : Bytes} {key : PrivateKey}
    {boardId : UInt32} (h : sign image key boardId = .ok signed) :
    verifyImage signed key.publicKey = .ok (boardId, true) :=
  verifyImage_eq_ok_iff.mpr
    ⟨rfl, image, _, wellFormed_of_sign h, rfl, PublicKey.verify_sign key image⟩

/-- What becomes of an image that is signed. It is refused as signed exactly if the mark stands eighty
bytes from its end, and as too long exactly if it is not and the length does not fit a word; nothing
else is refused. Otherwise the signed image begins with the image and is eighty bytes longer; the
descriptor can be taken off again; it cannot be signed once more, with whatever key; and if the scheme
verifies what it has signed, the image is verified under the public half of the key, for its board. -/
theorem sign_round_trip (image : Bytes) (key : PrivateKey) (boardId : UInt32) :
    (sign image key boardId = .error .alreadySigned ↔
      descriptorLength ≤ image.length ∧
        descriptorMagic <+: image.drop (image.length - descriptorLength)) ∧
    (sign image key boardId = .error (.lengthMismatch (UInt32.size - 1) image.length) ↔
      ¬ (descriptorLength ≤ image.length ∧
        descriptorMagic <+: image.drop (image.length - descriptorLength)) ∧
      UInt32.size - 1 < image.length) ∧
    (∀ e, sign image key boardId = .error e →
      e = .alreadySigned ∨ e = .lengthMismatch (UInt32.size - 1) image.length) ∧
    ∀ signed, sign image key boardId = .ok signed →
      image <+: signed ∧ signed.length = image.length + 80 ∧ strip signed = .ok image ∧
      (∀ key' boardId', sign signed key' boardId' = .error .alreadySigned) ∧
      (LawfulSignatureScheme → verifyImage signed key.publicKey = .ok (boardId, true)) := by
  have hsize : UInt32.size - 1 < image.length ↔ UInt32.size ≤ image.length := by
    have hpos : 0 < UInt32.size := by decide
    omega
  rw [← isSigned_iff, hsize]
  refine ⟨?_, ?_, ?_, ?_⟩
  · simp [sign_eq_error_iff]
  · simp [sign_eq_error_iff]
  · intro e he
    obtain ⟨-, rfl⟩ | ⟨-, -, rfl⟩ := sign_eq_error_iff.mp he
    · exact .inl rfl
    · exact .inr rfl
  · intro signed h
    have hform := wellFormed_of_sign h
    refine ⟨?_, ?_, hform.strip_eq, sign_of_isSigned hform.isSigned, fun _ => verifyImage_of_sign h⟩
    · rw [hform.signed_eq]
      exact List.prefix_append _ _
    · rw [hform.signed_eq, length_append_trailer (Descriptor.length_toBytes _), descriptorLength]

end Signing

section KeyedHash

attribute [local instance] Line.keyedHash Line.lawful_keyedHash

theorem sign_round_trip_mark : ∃ signed,
    sign descriptorMagic Dialogue.operator 5 = .ok signed ∧ signed.length = 88 ∧
      strip signed = .ok descriptorMagic ∧
      sign signed Dialogue.operator 6 = .error .alreadySigned ∧
      verifyImage signed Dialogue.operator.publicKey = .ok (5, true) := by
  have hsign : sign descriptorMagic Dialogue.operator 5 = .ok (descriptorMagic ++
      (Descriptor.mk 5 8 (Dialogue.operator.sign descriptorMagic)).toBytes) := by
    rw [sign_eq, if_neg (by decide), if_neg (by decide)]
    rfl
  obtain ⟨-, -, -, hsigned⟩ := sign_round_trip descriptorMagic Dialogue.operator 5
  obtain ⟨-, hlen, hstrip, hagain, hverify⟩ := hsigned _ hsign
  exact ⟨_, hsign, hlen, hstrip, hagain _ _, hverify Line.lawful_keyedHash⟩

end KeyedHash

end Firmware

end SignedControl
