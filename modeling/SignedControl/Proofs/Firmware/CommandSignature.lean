import SignedControl.Proofs.Command.Binding
import SignedControl.Proofs.Firmware.Acceptance

/-!
# The signature of a command as that of an image

A node has one set of trusted keys, for commands and for images. Neither signed text tells which of
the two it is: the signed bytes of a command are a byte string like any other, and an image may be any
byte string. So a command that has been signed is an image that has been signed, and whoever has seen
it go by needs only put the descriptor behind it. But this is the only image that he gets.

* `asImage`: the signed bytes of a command, made an image. `verifyImage_asImage`: it is verified.
* `eq_asImage_of_verify`: what else carries the command's signature is not verified, if the signature
  is good for no other message.
* `command_signature_on_image`: both, for one key and for what a node takes as verified.
* `not_command_signature_kept_apart`: so the signatures of commands are not kept apart from those of
  images.
-/

namespace SignedControl.Firmware

/-- A signed message as an image for a board. -/
def asImage (message : Bytes) (signature : Signature) (boardId : UInt32) : Bytes :=
  message ++ (Descriptor.mk boardId (UInt32.ofNat message.length) signature).toBytes

/-- A byte string ends in a descriptor that holds this signature. -/
def Carries (signed : Bytes) (signature : Signature) : Prop :=
  ∃ (front : Bytes) (d : Descriptor), signed = front ++ d.toBytes ∧ d.signature = signature

theorem carries_asImage (message : Bytes) (signature : Signature) (boardId : UInt32) :
    Carries (asImage message signature boardId) signature := ⟨message, _, rfl, rfl⟩

theorem wellFormed_asImage {message : Bytes} (hfits : message.length < UInt32.size)
    (signature : Signature) (boardId : UInt32) :
    WellFormed (asImage message signature boardId) message
      ⟨boardId, UInt32.ofNat message.length, signature⟩ :=
  ⟨rfl, UInt32.toNat_ofNat_of_lt' hfits⟩

/-- A well-formed image is made of its body, its signature and its board. -/
theorem WellFormed.eq_asImage {signed body : Bytes} {d : Descriptor}
    (h : WellFormed signed body d) : signed = asImage body d.signature d.boardId := by
  obtain ⟨boardId, imageLength, signature⟩ := d
  have hlength : imageLength = UInt32.ofNat body.length := by
    rw [← h.imageLength_eq, UInt32.ofNat_toNat]
  rw [h.signed_eq, hlength, asImage]

/-- A well-formed image that carries a signature has it in its descriptor. -/
theorem WellFormed.signature_eq {signed body : Bytes} {d : Descriptor} {signature : Signature}
    (h : WellFormed signed body d) (hcarries : Carries signed signature) :
    d.signature = signature := by
  obtain ⟨front, d', rfl, rfl⟩ := hcarries
  have hsame : d.toBytes = d'.toBytes :=
    (List.append_inj' h.signed_eq (by rw [d.length_toBytes, d'.length_toBytes])).2.symm
  have hread := d.ofBytes?_toBytes
  rw [hsame, d'.ofBytes?_toBytes] at hread
  rw [Option.some.inj hread]

section Scheme

variable [SignatureScheme] {keys : List PublicKey} {message : Bytes} {signature : Signature}

theorem verifyImage_asImage {key : PublicKey} (hfits : message.length < UInt32.size)
    (hv : key.verify message signature.bytes = true) (boardId : UInt32) :
    verifyImage (asImage message signature boardId) key = .ok (boardId, true) :=
  verifyImage_eq_ok_iff.mpr ⟨rfl, message, _, wellFormed_asImage hfits signature boardId, rfl, hv⟩

/-- If a signature is good for one message, what carries it and is verified is this message as an
image. -/
theorem eq_asImage_of_verify {signed body : Bytes} {d : Descriptor}
    (hunique : ∀ key ∈ keys, ∀ other, key.verify other signature.bytes = true → other = message)
    (hform : WellFormed signed body d) (hcarries : Carries signed signature) {key : PublicKey}
    (hkey : key ∈ keys) (hv : key.verify body d.signature.bytes = true) :
    signed = asImage message signature d.boardId := by
  obtain rfl := hform.signature_eq hcarries
  rw [← hunique key hkey body hv]
  exact hform.eq_asImage

/-- The signature of a command makes an image of the command's signed bytes: if their number fits a
word, they are verified with it for every board under the matching key, and every node that trusts this
key and that the board suits takes them as verified, at every lock level. Unless the signature is good
for another message too, under this or another trusted key, nothing else that carries it is verified by
the key or taken as verified by the node. -/
theorem command_signature_on_image [LawfulSignatureScheme] {key : PrivateKey} {sequence : UInt32}
    {operation : Operation} {payload : Bytes} {sessionKey : Option Bytes} {request : SignedRequest}
    (hrequest : key.signRequest sequence operation payload sessionKey = .ok request)
    {keys : List PublicKey} (hkey : key.publicKey ∈ keys) :
    ∃ message, canonicalMessage sequence operation payload sessionKey = .ok message ∧
      (message.length < UInt32.size → ∀ boardId,
        verifyImage (asImage message request.signature boardId) key.publicKey =
            .ok (boardId, true) ∧
          ∀ node lockLevel, boardId = 0 ∨ boardId = node → ∃ d,
            checkUpdate (asImage message request.signature boardId) keys node lockLevel =
              .ok (.verified d)) ∧
      ((∀ trusted ∈ keys, ∀ other,
          trusted.verify other request.signature.bytes = true → other = message) →
        ∀ signed, Carries signed request.signature →
          (∀ r, verifyImage signed key.publicKey = .ok r →
            ∃ boardId, signed = asImage message request.signature boardId) ∧
          ∀ node lockLevel d, checkUpdate signed keys node lockLevel = .ok (.verified d) →
            ∃ boardId, (boardId = 0 ∨ boardId = node) ∧
              signed = asImage message request.signature boardId) := by
  obtain ⟨message, hmessage, hsignature⟩ := exists_message_of_signRequest hrequest
  have hv : key.publicKey.verify message request.signature.bytes = true := by
    rw [hsignature]
    exact PublicKey.verify_sign key message
  refine ⟨message, hmessage, fun hfits boardId => ⟨verifyImage_asImage hfits hv boardId, ?_⟩, ?_⟩
  · intro node lockLevel hfor
    exact ⟨_, checkUpdate_eq_verified_iff.mpr
      ⟨message, wellFormed_asImage hfits _ boardId, hfor, _, hkey, hv⟩⟩
  · intro hunique signed hcarries
    refine ⟨?_, ?_⟩
    · rintro ⟨boardId, valid⟩ h
      obtain ⟨-, body, d, hform, -, hverify⟩ := verifyImage_eq_ok_iff.mp h
      exact ⟨_, eq_asImage_of_verify hunique hform hcarries hkey hverify⟩
    · intro node lockLevel d h
      obtain ⟨body, hform, hfor, trusted, htrusted, hverify⟩ := checkUpdate_eq_verified_iff.mp h
      exact ⟨_, hfor, eq_asImage_of_verify hunique hform hcarries htrusted hverify⟩

end Scheme

/-! ## A request for a session key -/

/-- The signed bytes of a request for a session key with sequence number 3. -/
def keyMessage : Bytes := Bytes.le32 3 ++ Bytes.le32 1

/-- The operator's signature of it. -/
def keySignature : Signature := ⟨Authority.keySignature, rfl⟩

/-- Ed25519, as far as the operator's request for a session key goes. All other messages have one
signature, and it is good for whatever it is presented with. -/
@[reducible] def soleScheme : SignatureScheme :=
  { Ed25519.scheme with
    sign := fun key message =>
      if key = Dialogue.operator ∧ message = keyMessage then keySignature
      else Block.fill signatureLength 0
    verify := fun key message signature =>
      signature ≠ keySignature || key == Authority.operatorKey && message == keyMessage }

theorem publicKey_operator : Ed25519.publicKey Dialogue.operator = Authority.operatorKey := by
  decide +kernel

theorem lawful_soleScheme : @LawfulSignatureScheme soleScheme := by
  refine @LawfulSignatureScheme.mk soleScheme fun key message => ?_
  show ((if key = Dialogue.operator ∧ message = keyMessage then keySignature
    else Block.fill signatureLength 0) ≠ keySignature ||
      Ed25519.publicKey key == Authority.operatorKey && message == keyMessage) = true
  split
  · next h =>
    obtain ⟨rfl, rfl⟩ := h
    simp [publicKey_operator]
  · have hne : Block.fill signatureLength 0 ≠ keySignature := by decide
    simp [hne]

section Sole

attribute [local instance] soleScheme lawful_soleScheme

theorem verify_keySignature_iff {key : PublicKey} {message : Bytes} :
    key.verify message keySignature.bytes = true ↔
      key = Authority.operatorKey ∧ message = keyMessage := by
  rw [PublicKey.verify, Block.ofBytes?_eq_some_iff.mpr rfl]
  show (keySignature ≠ keySignature ||
    key == Authority.operatorKey && message == keyMessage) = true ↔ _
  simp

theorem command_signature_on_image_keyMessage :
    verifyImage (asImage keyMessage keySignature 7) Authority.operatorKey = .ok (7, true) ∧
      (∃ d, checkUpdate (asImage keyMessage keySignature 7) [Authority.operatorKey] 7 2 =
        .ok (.verified d)) ∧
      ∀ signed, Carries signed keySignature → ∀ r,
        verifyImage signed Authority.operatorKey = .ok r →
          ∃ boardId, signed = asImage keyMessage keySignature boardId := by
  have hrequest := Dialogue.operator.signRequest_getSessionKey 3
  have hsignature : (Dialogue.operator.keyRequest 3).signature = keySignature := rfl
  have hkey : Dialogue.operator.publicKey = Authority.operatorKey := publicKey_operator
  have htrusted : Dialogue.operator.publicKey ∈ [Authority.operatorKey] := by
    rw [hkey]
    exact List.mem_singleton_self _
  obtain ⟨message, hmessage, hown, hother⟩ := command_signature_on_image hrequest htrusted
  rw [hsignature, hkey] at hown hother
  cases hmessage
  obtain ⟨hone, hnode⟩ := hown (by decide) 7
  refine ⟨hone, hnode 7 2 (.inr rfl), fun signed hcarries => (hother ?_ signed hcarries).1⟩
  intro trusted _ other h
  exact (verify_keySignature_iff.mp h).2

end Sole

/-- The operator's signature of a request for a session key is that of an image of eight bytes, for every
board. -/
theorem verifyImage_keyMessage (boardId : UInt32) :
    verifyImage (asImage keyMessage (Dialogue.operator.keyRequest 3).signature boardId)
      Dialogue.operator.publicKey = .ok (boardId, true) := by
  have hsignature : (Dialogue.operator.keyRequest 3).signature = keySignature := by
    decide +kernel
  have hkey : Dialogue.operator.publicKey = Authority.operatorKey := publicKey_operator
  have hv : Authority.operatorKey.verify keyMessage keySignature.bytes = true := by
    rw [keyMessage, ← List.append_nil (_ ++ _), keySignature]
    exact Authority.verify_keySignature
  rw [hsignature, hkey]
  exact verifyImage_asImage (by decide) hv boardId

/-- An image may carry the signature of a command and be verified. -/
theorem not_command_signature_kept_apart :
    ¬ ∀ (key : PrivateKey) (sequence : UInt32) (operation : Operation) (payload : Bytes)
        (sessionKey : Option Bytes) (request : SignedRequest), payload.length ≤ 156 →
      key.signRequest sequence operation payload sessionKey = .ok request →
        ∀ signed, Carries signed request.signature →
          (∀ r, verifyImage signed key.publicKey ≠ .ok r) ∧
            ∀ node lockLevel d, lockLevel = 1 ∨ lockLevel = 2 →
              checkUpdate signed [key.publicKey] node lockLevel ≠ .ok (.verified d) := by
  intro h
  have hapart := h Dialogue.operator 3 .getSessionKey [] none _ (by decide)
    (Dialogue.operator.signRequest_getSessionKey 3) _ (carries_asImage keyMessage _ 0)
  exact hapart.1 _ (verifyImage_keyMessage 0)

end SignedControl.Firmware
