import SignedControl.Proofs.Node.Replay

/-!
# Signatures that are presented again

Payload, signature and session key of a request are cut out of byte strings at places that the
request itself names, and one layout of the signed bytes serves all operations. Moving bytes from
one part to another gains nothing all the same, because the session keys of a node have one length
and so the signed bytes determine the command.

* `verifyCommand_unique`: a signature is good for one command and one session key, unless it is good
  for two messages.
* `signature_fits_one_command`: requests that a node admits with one signature are the same command,
  and a change is only admitted under the session key that it was signed over.
-/

namespace SignedControl

/-- One signature that is good for two different messages under some of the keys. -/
def SignatureCollision [SignatureScheme] (keys : List PublicKey) : Prop :=
  ∃ key ∈ keys, ∃ key' ∈ keys, ∃ message message' signature, message ≠ message' ∧
    key.verify message signature = true ∧ key'.verify message' signature = true

section Scheme

variable [SignatureScheme] {keys : List PublicKey}

/-- Without a collision a signature is good for one message. -/
theorem message_eq_of_verify (hunique : ¬ SignatureCollision keys) {key key' : PublicKey}
    (hkey : key ∈ keys) (hkey' : key' ∈ keys) {message message' signature : Bytes}
    (h : key.verify message signature = true) (h' : key'.verify message' signature = true) :
    message = message' := by
  apply Decidable.byContradiction
  intro hne
  exact hunique ⟨key, hkey, key', hkey', message, message', signature, hne, h, h'⟩

theorem verifyCommand_eq_true_iff {key : PublicKey} {sequence : UInt32} {operation : Operation}
    {payload signature : Bytes} {sessionKey : Option Bytes} :
    verifyCommand key sequence operation payload sessionKey signature = true ↔
      ∃ message, canonicalMessage sequence operation payload sessionKey = .ok message ∧
        key.verify message signature = true := by
  unfold verifyCommand
  cases canonicalMessage sequence operation payload sessionKey <;> simp

/-- A signature is good for one command, and for one session key where it covers one. -/
theorem verifyCommand_unique (hunique : ¬ SignatureCollision keys) {key key' : PublicKey}
    (hkey : key ∈ keys) (hkey' : key' ∈ keys) {sequence sequence' : UInt32}
    {operation operation' : Operation} {payload payload' signature : Bytes}
    {sessionKey sessionKey' : Option (Block sessionKeyLength)}
    (h : verifyCommand key sequence operation payload (sessionKey.map (·.bytes)) signature = true)
    (h' : verifyCommand key' sequence' operation' payload' (sessionKey'.map (·.bytes)) signature =
      true) :
    sequence = sequence' ∧ operation = operation' ∧ payload = payload' ∧
      (operation.needsSessionKey = true → sessionKey = sessionKey') := by
  obtain ⟨message, hmessage, hverify⟩ := verifyCommand_eq_true_iff.mp h
  obtain ⟨message', hmessage', hverify'⟩ := verifyCommand_eq_true_iff.mp h'
  obtain rfl := message_eq_of_verify hunique hkey hkey' hverify hverify'
  have hlength : ∀ k k', sessionKey.map (·.bytes) = some k → sessionKey'.map (·.bytes) = some k' →
      k.length = k'.length := by
    intro k k' hk hk'
    obtain ⟨b, -, rfl⟩ := Option.map_eq_some_iff.mp hk
    obtain ⟨b', -, rfl⟩ := Option.map_eq_some_iff.mp hk'
    rw [b.length_eq, b'.length_eq]
  obtain ⟨hsequence, hoperation, hpayload, hsession⟩ :=
    canonicalMessage_inj hmessage hmessage' fun _ _ => hlength
  exact ⟨hsequence, hoperation, hpayload,
    fun hneeds => Option.map_injective (fun _ _ => Block.ext) (hsession hneeds)⟩

namespace Authority

/-- The node before a step of a run: it has handled the requests of the earlier steps. -/
def before (a : Authority) (requests : List Request) (step : Nat) : Authority :=
  (a.handleAll (requests.take step)).2

theorem keys_before (a : Authority) (requests : List Request) (step : Nat) :
    (a.before requests step).keys = a.keys := keys_handleAll a (requests.take step)

theorem before_succ (a : Authority) {requests : List Request} {n : Nat} {r : Request}
    (h : requests[n]? = some r) :
    a.before requests (n + 1) = ((a.before requests n).handle r).2 := by
  rw [before, List.take_add_one, h, Option.toList_some, handleAll_concat_snd, before]

/-- In every run of a node whose trusted keys have no collision: two requests that it admits with
one signature have the same sequence number, operation and payload, and if they are changes, the
node held the same session key at both. And what a trusted key has signed as a change over one
session key passes for nothing while the node holds no or another one. -/
theorem signature_fits_one_command (keys : List PublicKey) (table : ParameterTable)
    (source : Nat → Block sessionKeyLength)
    (hunique : ¬ SignatureCollision (keys.take maxPublicKeys)) (requests : List Request) :
    (∀ i j r r' operation operation' payload payload' signature,
      ((new keys table source).before requests i).Admits r operation payload signature →
      ((new keys table source).before requests j).Admits r' operation' payload' signature →
        r.sequence = r'.sequence ∧ operation = operation' ∧ payload = payload' ∧
          (operation = .setConfig → ∃ sessionKey,
            ((new keys table source).before requests i).sessionKey = some sessionKey ∧
            ((new keys table source).before requests j).sessionKey = some sessionKey)) ∧
    ∀ key ∈ keys.take maxPublicKeys, ∀ sequence payload signature
      (sessionKey : Block sessionKeyLength),
      verifyCommand key sequence .setConfig payload (some sessionKey.bytes) signature = true →
        ∀ i, ((new keys table source).before requests i).sessionKey ≠ some sessionKey →
          ∀ sequence' operation payload', ((new keys table source).before requests i).permits
            sequence' operation payload' signature = false := by
  have hkeys : ∀ i, ((new keys table source).before requests i).keys = keys.take maxPublicKeys :=
    keys_before _ requests
  refine ⟨?_, ?_⟩
  · intro i j r r' operation operation' payload payload' signature ha ha'
    obtain ⟨key, hkey, hverify⟩ := exists_verifyCommand_of_permits ha.permits
    obtain ⟨key', hkey', hverify'⟩ := exists_verifyCommand_of_permits ha'.permits
    rw [hkeys] at hkey hkey'
    obtain ⟨hsequence, rfl, hpayload, hsession⟩ :=
      verifyCommand_unique hunique hkey hkey' hverify hverify'
    refine ⟨hsequence, rfl, hpayload, ?_⟩
    intro hop
    subst hop
    obtain ⟨-, sessionKey, hk, -⟩ := permits_setConfig_iff.mp ha.permits
    exact ⟨sessionKey, hk, (hsession rfl).symm.trans hk⟩
  · intro key hkey sequence payload signature sessionKey hsigned i hne sequence' operation payload'
    apply Bool.eq_false_iff.mpr
    intro hpermits
    obtain ⟨key', hkey', hverify⟩ := exists_verifyCommand_of_permits hpermits
    rw [hkeys] at hkey'
    have hsigned' : verifyCommand key sequence .setConfig payload
        ((some sessionKey).map (·.bytes)) signature = true := hsigned
    obtain ⟨-, -, -, hsession⟩ := verifyCommand_unique hunique hkey hkey' hsigned' hverify
    exact hne (hsession rfl).symm

end Authority

end Scheme

/-! ## The signatures of an operator -/

namespace Authority

/-- The message that each of the operator's two signatures was made for. -/
def signedMessage? (signature : Bytes) : Option Bytes :=
  if signature = keySignature then some (Bytes.le32 3 ++ Bytes.le32 1 ++ [])
  else if signature = lockSignature then
    some (Bytes.le32 4 ++ Bytes.le32 5 ++ lockPayload ++ (numberedKey 0).bytes)
  else none

/-- Ed25519, with no other signatures than the operator's two. -/
@[reducible] def recordedScheme : SignatureScheme :=
  { Ed25519.scheme with
    verify := fun key message signature =>
      Ed25519.verify key message signature && signedMessage? signature.bytes == some message }

theorem verify_recordedScheme_iff {key : PublicKey} {message signature : Bytes} :
    @PublicKey.verify recordedScheme key message signature = true ↔
      key.verify message signature = true ∧ signedMessage? signature = some message := by
  unfold PublicKey.verify
  cases hs : Block.ofBytes? (n := signatureLength) signature with
  | none => simp
  | some s =>
    show (Ed25519.verify key message s && signedMessage? s.bytes == some message) = true ↔
      Ed25519.verify key message s = true ∧ signedMessage? signature = some message
    rw [Block.ofBytes?_eq_some_iff.mp hs, Bool.and_eq_true, beq_iff_eq]

section Recorded

attribute [local instance] recordedScheme

theorem not_collision_recordedScheme (keys : List PublicKey) : ¬ SignatureCollision keys := by
  rintro ⟨key, -, key', -, message, message', signature, hne, h, h'⟩
  have hmessage := (verify_recordedScheme_iff.mp h).2
  exact hne (Option.some.inj (hmessage.symm.trans (verify_recordedScheme_iff.mp h').2))

/-- A run in which the change is carried out, and then another session key is issued. -/
def renewal : List Request := [keyRequest, lockRequest, keyRequest]

instance verifiesOperator_recordedScheme : VerifiesOperator where
  verify_keySignature := verify_recordedScheme_iff.mpr ⟨verify_keySignature, by decide⟩
  verify_lockSignature := verify_recordedScheme_iff.mpr ⟨verify_lockSignature, by decide⟩

theorem operatorKey_mem_before (step : Nat) :
    operatorKey ∈ (lockedNode.before renewal step).keys := by
  rw [keys_before]
  exact List.mem_singleton_self operatorKey

theorem before_renewal_one : lockedNode.before renewal 1 =
    { lockedNode with sessionKey := some (numberedKey 0), issued := 1 } := by
  have hrun : renewal.take 1 = [keyRequest] := rfl
  rw [before, hrun, handleAll_keyRequest]

theorem admits_lockRequest_renewal_one :
    (lockedNode.before renewal 1).Admits lockRequest .setConfig lockPayload lockSignature :=
  admits_lockRequest (operatorKey_mem_before 1) (by rw [before_renewal_one])

theorem before_renewal_two : ∃ table, lockedNode.before renewal 2 =
    { lockedNode.before renewal 1 with parameters := table } := by
  rw [before_succ lockedNode (n := 1) (r := lockRequest) rfl]
  exact Applies.handle_snd ⟨lockPayload, lockSignature, admits_lockRequest_renewal_one⟩

theorem sessionKey_before_renewal_three :
    (lockedNode.before renewal 3).sessionKey = some (numberedKey 1) := by
  have hrun : renewal.take 3 = [keyRequest] ++ lockRequest :: [keyRequest] := rfl
  rw [before, hrun, sessionKey_keyRequest_again]

theorem signature_fits_one_command_renewal :
    ¬ SignatureCollision [operatorKey] ∧
      (lockedNode.before renewal 1).Admits lockRequest .setConfig lockPayload lockSignature ∧
      (lockedNode.before renewal 2).Admits lockRequest .setConfig lockPayload lockSignature ∧
      (∃ sessionKey, (lockedNode.before renewal 1).sessionKey = some sessionKey ∧
        (lockedNode.before renewal 2).sessionKey = some sessionKey) ∧
      verifyCommand operatorKey 4 .setConfig lockPayload (some (numberedKey 0).bytes)
        lockSignature = true ∧
      (lockedNode.before renewal 3).sessionKey ≠ some (numberedKey 0) ∧
      ∀ sequence operation payload,
        (lockedNode.before renewal 3).permits sequence operation payload lockSignature = false := by
  have hone := admits_lockRequest_renewal_one
  have htwo : (lockedNode.before renewal 2).Admits lockRequest .setConfig lockPayload
      lockSignature := by
    obtain ⟨table, hnode⟩ := before_renewal_two
    exact admits_lockRequest (operatorKey_mem_before 2)
      (by rw [hnode, before_renewal_one])
  have hsigned : verifyCommand operatorKey 4 .setConfig lockPayload
      (some (numberedKey 0).bytes) lockSignature = true := by
    rw [verifyCommand, canonicalMessage_setConfig]
    exact VerifiesOperator.verify_lockSignature
  have hthree : (lockedNode.before renewal 3).sessionKey ≠ some (numberedKey 0) := by
    rw [sessionKey_before_renewal_three]
    decide
  have hfits := signature_fits_one_command [operatorKey] .initial numberedKey
    (not_collision_recordedScheme _) renewal
  rw [← lockedNode] at hfits
  refine ⟨not_collision_recordedScheme _, hone, htwo, ?_, hsigned, hthree, ?_⟩
  · exact (hfits.1 1 2 lockRequest lockRequest _ _ _ _ _ hone htwo).2.2.2 rfl
  · exact hfits.2 operatorKey (List.mem_singleton_self operatorKey) 4 lockPayload lockSignature
      (numberedKey 0) hsigned 3 hthree

end Recorded

end Authority

end SignedControl
