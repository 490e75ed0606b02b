import SignedControl.Node.Connection
import SignedControl.Proofs.Dialogue.KeyAgreement
import SignedControl.Proofs.Wire.RoundTrip

/-!
# A signed command on its way

The operator signs a command and writes it as a frame. The node reads the frame, splits the data of
the request into payload and signature, and puts together the signed bytes for itself. Signer and
writer on one side and reader and verifier on the other share no state, so everything that the node
needs has to be in the bytes.

* `answerEncoded_eq`: a frame that can be written brings the node the very request.
* `signed_command_carried_out`: a command that a trusted key has signed is carried out if its
  payload leaves room for the signature, and denied if not.
-/

namespace SignedControl

/-- The data of a signed command are its payload and 64 bytes of signature. -/
theorem SignedRequest.length_data_toRequest (s : SignedRequest) :
    s.toRequest.data.length = s.payload.length + signatureLength := by
  rw [SignedRequest.toRequest, List.length_append, s.signature.length_eq]

theorem Wire.exists_encode_ofRequest (source target : UInt32) {r : Request}
    (h : r.data.length + 38 ≤ maxFrameSize) :
    ∃ bytes, encode (.ofRequest source target r) = .ok bytes := by
  refine exists_encode fun body hbody => ?_
  cases hbody
  exact h

theorem PrivateKey.signRequest_eq_ok_iff [SignatureScheme] (key : PrivateKey)
    {sequence : UInt32} {operation : Operation} {payload : Bytes} {sessionKey : Option Bytes}
    {s : SignedRequest} :
    key.signRequest sequence operation payload sessionKey = .ok s ↔
      ∃ message, canonicalMessage sequence operation payload sessionKey = .ok message ∧
        s = ⟨sequence, operation, payload, key.sign message⟩ := by
  unfold signRequest signCommand
  cases canonicalMessage sequence operation payload sessionKey with
  | error e => simp [Except.map]
  | ok message => simp [Except.map, eq_comm]

namespace Authority

section Scheme

variable [SignatureScheme]

/-- What the node answers to a request that `source` writes as a frame for it, and the node
afterwards. -/
def answerEncoded (nodeId source : UInt32) (a : Authority) (r : Request) :
    Except Wire.CodecError (Option Frame × Authority) :=
  match Wire.encode (.ofRequest source nodeId r) with
  | .error e => .error e
  | .ok bytes =>
    match (Wire.decode bytes).1 with
    | .error e => .error e
    | .ok none => .ok (none, a)
    | .ok (some f) => .ok (a.handleFrame nodeId f)

variable {a : Authority} {r : Request} {nodeId source : UInt32}

theorem handleFrame_ofRequest (a : Authority) (nodeId source : UInt32) (r : Request) :
    a.handleFrame nodeId (.ofRequest source nodeId r) =
      (some (.ofResponse nodeId source (a.handle r).1), (a.handle r).2) := by
  simp [handleFrame, Frame.ofRequest]

/-- The node handles the request that was written. -/
theorem answerEncoded_eq {bytes : Bytes}
    (h : Wire.encode (.ofRequest source nodeId r) = .ok bytes) :
    a.answerEncoded nodeId source r =
      .ok (some (.ofResponse nodeId source (a.handle r).1), (a.handle r).2) := by
  have hread := Wire.decode_encode h []
  rw [List.append_nil] at hread
  simp only [answerEncoded, h, hread, handleFrame_ofRequest]

theorem handle_of_length_lt (h : maxCommandData < r.data.length) :
    a.handle r = (r.reply .denied [], a) := by
  rw [handle, if_pos h]

/-- A signed command whose payload leaves room for the signature is carried out. -/
theorem answerEncoded_eq_execute [LawfulSignatureScheme] {key : PrivateKey}
    (hkey : key.publicKey ∈ a.keys) {sequence : UInt32} {operation : Operation} {payload : Bytes}
    {sessionKey : Option Bytes} {s : SignedRequest}
    (hs : key.signRequest sequence operation payload sessionKey = .ok s)
    (hlen : payload.length + signatureLength ≤ maxCommandData)
    (hsession : operation.needsSessionKey = true → sessionKey = a.sessionKey.map (·.bytes)) :
    a.answerEncoded nodeId source s.toRequest =
      .ok (some (.ofResponse nodeId source (a.execute s.toRequest operation payload).1),
        (a.execute s.toRequest operation payload).2) := by
  have hadmits := Admits.of_signRequest hkey hs hlen hsession
  have hdata := hadmits.length_le
  have hframe : maxCommandData + 38 ≤ Wire.maxFrameSize := by decide
  obtain ⟨bytes, hbytes⟩ :=
    Wire.exists_encode_ofRequest source nodeId (r := s.toRequest) (by omega)
  rw [answerEncoded_eq hbytes, hadmits.handle_eq]

/-- A command that a trusted key has signed, a change over the session key that the node holds. With
at most 156 bytes of payload it goes through: a request for a session key is accepted and brings the
key that the node holds from then on, and a change is answered with what applying the payload gives.
With more bytes it is denied, if it can be written at all, and the node stays as it is. -/
theorem signed_command_carried_out [LawfulSignatureScheme] {a : Authority} {key : PrivateKey}
    (hkey : key.publicKey ∈ a.keys) (nodeId source sequence : UInt32) (payload : Bytes) :
    (payload.length ≤ 156 →
      (∀ sessionKey, ∃ s, key.signRequest sequence .getSessionKey payload sessionKey = .ok s ∧
        ∃ issued : Block sessionKeyLength, a.answerEncoded nodeId source s.toRequest =
          .ok (some (.ofResponse nodeId source ⟨sequence, Operation.getSessionKey.code,
            CommandResult.accepted.code, issued.bytes⟩),
            { a with sessionKey := some issued, issued := a.issued + 1 })) ∧
      ∀ sessionKey, a.sessionKey = some sessionKey →
        ∃ s, key.signRequest sequence .setConfig payload (some sessionKey.bytes) = .ok s ∧
          a.answerEncoded nodeId source s.toRequest =
            .ok (some (.ofResponse nodeId source ⟨sequence, Operation.setConfig.code,
              (a.parameters.applyConfig payload).1.code, []⟩),
              { a with parameters := (a.parameters.applyConfig payload).2 })) ∧
    (156 < payload.length → ∀ operation sessionKey s bytes,
      key.signRequest sequence operation payload sessionKey = .ok s →
        Wire.encode (.ofRequest source nodeId s.toRequest) = .ok bytes →
          a.answerEncoded nodeId source s.toRequest =
            .ok (some (.ofResponse nodeId source ⟨sequence, operation.code,
              CommandResult.denied.code, []⟩), a)) := by
  refine ⟨?_, ?_⟩
  · intro hlen
    have hroom : payload.length + signatureLength ≤ maxCommandData :=
      Nat.add_le_add_right hlen signatureLength
    refine ⟨?_, ?_⟩
    · intro sessionKey
      have hs := key.signRequest_eq_ok_iff.mpr
        ⟨_, canonicalMessage_getSessionKey sequence payload sessionKey, rfl⟩
      exact ⟨_, hs, a.source a.issued, answerEncoded_eq_execute hkey hs hroom nofun⟩
    · intro sessionKey hsession
      have hs := key.signRequest_setConfig sequence payload sessionKey.bytes
      refine ⟨_, hs, answerEncoded_eq_execute hkey hs hroom ?_⟩
      simp [hsession]
  · intro hlong operation sessionKey s bytes hs hbytes
    obtain ⟨message, -, rfl⟩ := key.signRequest_eq_ok_iff.mp hs
    have htoolong : maxCommandData < payload.length + signatureLength :=
      Nat.add_lt_add_right hlong signatureLength
    rw [answerEncoded_eq hbytes, handle_of_length_lt]
    · rfl
    · rw [SignedRequest.length_data_toRequest]
      exact htoolong

end Scheme

section KeyedHash

attribute [local instance] Line.keyedHash Line.lawful_keyedHash

/-- A node that trusts the operator and has issued one session key. -/
def issuedNode : Authority :=
  { new [Dialogue.operator.publicKey] .initial numberedKey with
    sessionKey := some (numberedKey 0)
    issued := 1 }

/-- One byte more than leaves room for a signature. -/
def longPayload : Bytes := List.replicate 157 0

theorem length_longPayload : longPayload.length = 157 := List.length_replicate

theorem signed_command_carried_out_issuedNode :
    (∃ s, Dialogue.operator.signRequest 4 .setConfig lockPayload (some (numberedKey 0).bytes) =
        .ok s ∧
      issuedNode.answerEncoded 10 100 s.toRequest =
        .ok (some (.ofResponse 10 100 ⟨4, 5, 0, []⟩),
          { issuedNode with
            parameters := (issuedNode.parameters.applyConfig lockPayload).2 })) ∧
    (∃ s, Dialogue.operator.signRequest 0 .getSessionKey [] none = .ok s ∧
      ∃ issued : Block sessionKeyLength, issuedNode.answerEncoded 10 100 s.toRequest =
        .ok (some (.ofResponse 10 100 ⟨0, 1, 0, issued.bytes⟩),
          { issuedNode with sessionKey := some issued, issued := 2 })) ∧
    ∃ s, Dialogue.operator.signRequest 5 .setConfig longPayload (some (numberedKey 0).bytes) =
        .ok s ∧
      issuedNode.answerEncoded 10 100 s.toRequest =
        .ok (some (.ofResponse 10 100 ⟨5, 5, 2, []⟩), issuedNode) := by
  have hkey : Dialogue.operator.publicKey ∈ issuedNode.keys :=
    List.mem_singleton_self Dialogue.operator.publicKey
  have hlock := (signed_command_carried_out hkey 10 100 4 lockPayload).1 (by decide)
  have hask := (signed_command_carried_out hkey 10 100 0 []).1 (by decide)
  have hlong := (signed_command_carried_out hkey 10 100 5 longPayload).2
    (by rw [length_longPayload]; decide)
  refine ⟨?_, hask.1 none, ?_⟩
  · have haccepted : (issuedNode.parameters.applyConfig lockPayload).1 = .accepted := by
      decide +kernel
    have hchange := hlock.2 (numberedKey 0) rfl
    rw [haccepted] at hchange
    exact hchange
  · have hs := Dialogue.operator.signRequest_setConfig 5 longPayload (numberedKey 0).bytes
    obtain ⟨bytes, hbytes⟩ := Wire.exists_encode_ofRequest 100 10
      (r := (Dialogue.operator.changeRequest 5 longPayload (numberedKey 0).bytes).toRequest)
      (by
        rw [SignedRequest.length_data_toRequest, PrivateKey.changeRequest, length_longPayload]
        decide)
    exact ⟨_, hs, hlong .setConfig _ _ bytes hs hbytes⟩

end KeyedHash

end Authority

end SignedControl
