import SignedControl.Signature

/-!
# Signed firmware images

A signed image is the image followed by a descriptor of 80 bytes: a mark, the board that the image
is for, the image's length, and the signature of the image. The board is not covered by the
signature.

* `Descriptor.ofBytes?_toBytes`: a descriptor is read back.
* `split`: an image and its descriptor, if the descriptor's form and length are right.
* `sign_eq`: what becomes of an image that is signed.
-/

namespace SignedControl.Firmware

/-- The mark at the start of a descriptor. -/
def descriptorMagic : Bytes := [0x43, 0x2a, 0xf1, 0x37, 0x46, 0xe2, 0x75, 0x19]

/-- The number of bytes of a descriptor. -/
def descriptorLength : Nat := 80

/-- Why an image is not signed, or not accepted. -/
inductive Error where
  /-- The image to be signed has a descriptor. -/
  | alreadySigned
  /-- A signature has the wrong number of bytes. -/
  | signatureLength (actual : Nat)
  /-- The length in the descriptor, or the place of the descriptor, is wrong. -/
  | lengthMismatch (expected actual : Nat)
  /-- The image is too short to have a descriptor. -/
  | missingDescriptor (length : Nat)
  /-- No trusted key verifies the image. -/
  | signatureInvalid
  /-- There are no keys to verify the image with. -/
  | noTrustedKeys
  /-- The image is for another board. -/
  | boardMismatch (expected actual : UInt32)
deriving DecidableEq, Repr

/-- The wording of a firmware error. -/
def Error.message : Error → String
  | .alreadySigned => "Image is already signed"
  | .signatureLength actual =>
    "Bad signature length " ++ toString actual ++ " (expected " ++
      toString SignedControl.signatureLength ++ ")"
  | .lengthMismatch expected actual =>
    "Image length mismatch: expected " ++ toString expected ++ ", got " ++ toString actual
  | .missingDescriptor length =>
    "Image too short for a signature descriptor: " ++ toString length ++ " bytes"
  | .signatureInvalid => "Firmware signature is invalid"
  | .noTrustedKeys => "No trusted public keys configured"
  | .boardMismatch expected actual =>
    "Image is for board " ++ toString actual.toNat ++ ", expected " ++ toString expected.toNat

/-- What stands after a signed image. -/
structure Descriptor where
  /-- The board that the image is for; zero means any. -/
  boardId : UInt32
  /-- The number of bytes of the image. -/
  imageLength : UInt32
  /-- The signature of the image. -/
  signature : Signature
deriving DecidableEq

namespace Descriptor

/-- The bytes of a descriptor. -/
def toBytes (d : Descriptor) : Bytes :=
  descriptorMagic ++ Bytes.le32 d.boardId ++ Bytes.le32 d.imageLength ++ d.signature.bytes

/-- The descriptor that eighty bytes spell, if they begin with the mark. -/
def ofBytes? (b : Bytes) : Option Descriptor :=
  match b.drop descriptorMagic.length with
  | i0 :: i1 :: i2 :: i3 :: n0 :: n1 :: n2 :: n3 :: signature =>
    if b.take descriptorMagic.length = descriptorMagic then
      (Block.ofBytes? signature).map
        (⟨Bytes.ofLE32 i0 i1 i2 i3, Bytes.ofLE32 n0 n1 n2 n3, ·⟩)
    else none
  | _ => none

@[simp] theorem length_toBytes (d : Descriptor) : d.toBytes.length = descriptorLength := by
  have h : d.signature.bytes.length = 64 := d.signature.length_eq
  simp [toBytes, descriptorMagic, descriptorLength, h]

theorem ofBytes?_toBytes (d : Descriptor) : ofBytes? d.toBytes = some d := by
  obtain ⟨boardId, imageLength, signature⟩ := d
  simp only [ofBytes?, toBytes, descriptorMagic, Bytes.le32, List.cons_append, List.nil_append,
    List.length_cons, List.length_nil, List.drop_succ_cons, List.drop_zero, List.take_succ_cons,
    List.take_zero, if_true, Bytes.ofLE32_le32, Block.ofBytes?_eq_some_iff.mpr rfl, Option.map_some]

/-- Bytes that spell a descriptor are its bytes. -/
theorem toBytes_of_ofBytes? {b : Bytes} {d : Descriptor} (h : ofBytes? b = some d) :
    b = d.toBytes := by
  unfold ofBytes? at h
  split at h
  · next hb =>
    split at h
    · next hm =>
      obtain ⟨s, hs, rfl⟩ := Option.map_eq_some_iff.mp h
      rw [Block.ofBytes?_eq_some_iff] at hs
      rw [← List.take_append_drop descriptorMagic.length b, hm, hb, hs]
      simp [toBytes, Bytes.le32_ofLE32]
    · cases h
  · cases h

end Descriptor

/-- Whether an image ends in something that begins like a descriptor. -/
def isSigned (image : Bytes) : Bool :=
  descriptorLength ≤ image.length &&
    (image.drop (image.length - descriptorLength)).take descriptorMagic.length == descriptorMagic

/-- The image and the descriptor of a signed image. The signature is not checked. -/
def split (signed : Bytes) : Except Error (Bytes × Descriptor) :=
  if signed.length < descriptorLength then .error (.missingDescriptor signed.length)
  else
    let body := signed.take (signed.length - descriptorLength)
    match Descriptor.ofBytes? (signed.drop (signed.length - descriptorLength)) with
    | none => .error (.lengthMismatch body.length signed.length)
    | some d =>
      if d.imageLength.toNat = body.length then .ok (body, d)
      else .error (.lengthMismatch body.length d.imageLength.toNat)

/-- The image without its descriptor. -/
def strip (signed : Bytes) : Except Error Bytes := (split signed).map (·.1)

variable [SignatureScheme]

/-- The image with a descriptor. A signature or a whole of the wrong length would be refused. -/
def sign (image : Bytes) (key : PrivateKey) (boardId : UInt32) : Except Error Bytes :=
  if isSigned image then .error .alreadySigned
  else if UInt32.size ≤ image.length then .error (.lengthMismatch (UInt32.size - 1) image.length)
  else
    let signature := (key.sign image).bytes
    match Block.ofBytes? signature with
    | none => .error (.signatureLength signature.length)
    | some block =>
      let signed := image ++ (Descriptor.mk boardId (UInt32.ofNat image.length) block).toBytes
      if signed.length = image.length + descriptorLength then .ok signed
      else .error (.lengthMismatch (image.length + descriptorLength) signed.length)

/-- Neither length is ever wrong, so only the image itself is refused. -/
theorem sign_eq (image : Bytes) (key : PrivateKey) (boardId : UInt32) :
    sign image key boardId =
      if isSigned image then .error .alreadySigned
      else if UInt32.size ≤ image.length then
        .error (.lengthMismatch (UInt32.size - 1) image.length)
      else .ok (image ++
        (Descriptor.mk boardId (UInt32.ofNat image.length) (key.sign image)).toBytes) := by
  have hread : Block.ofBytes? (key.sign image).bytes = some (key.sign image) :=
    Block.ofBytes?_eq_some_iff.mpr rfl
  simp only [sign, hread, List.length_append, Descriptor.length_toBytes, if_true]

/-- The board of a signed image that one key verifies. -/
def verifyImage (signed : Bytes) (key : PublicKey) : Except Error (UInt32 × Bool) :=
  match split signed with
  | .error e => .error e
  | .ok (body, d) =>
    if key.verify body d.signature.bytes then .ok (d.boardId, true) else .error .signatureInvalid

/-- The descriptor of a signed image that one of the keys verifies. -/
def verifyWithKeys (signed : Bytes) (keys : List PublicKey) : Except Error Descriptor :=
  if keys.isEmpty then .error .noTrustedKeys
  else
    match split signed with
    | .error e => .error e
    | .ok (body, d) =>
      if keys.any (·.verify body d.signature.bytes) then .ok d else .error .signatureInvalid

end SignedControl.Firmware
