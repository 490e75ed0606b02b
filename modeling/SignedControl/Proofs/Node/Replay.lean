import SignedControl.Crypto.Ed25519
import SignedControl.Proofs.Node.Authorization

/-!
# Replayed configuration changes

A node keeps no record of the sequence numbers it has seen. What protects it against replays is the
session key: a signature covers the one that was current, and a new one makes it stale.

* `FitsTwoKeys`: what it would take to escape from that, a signature of a change that is good over
  two session keys. `Applies.fitsTwoKeys`: nothing less will do.
* `applies_again`: a change that was carried out is carried out again for as long as no session
  key has been issued since, and never after that, unless its own signature is good over the session
  key of then and that of now.
* `not_applies_once`: so a change may well be carried out twice under one session key.
-/

namespace SignedControl

/-- The signature of a change is good over two different session keys, under some of the keys. -/
structure FitsTwoKeys [SignatureScheme] (keys : List PublicKey) (sequence : UInt32)
    (payload signature sessionKey sessionKey' : Bytes) : Prop where
  /-- The session keys are different. -/
  ne : sessionKey ≠ sessionKey'
  /-- The signature is good over the one. -/
  verify : ∃ key ∈ keys,
    verifyCommand key sequence .setConfig payload (some sessionKey) signature = true
  /-- It is good over the other. -/
  verify' : ∃ key ∈ keys,
    verifyCommand key sequence .setConfig payload (some sessionKey') signature = true

namespace Authority

section Replay

variable [SignatureScheme] {a a' : Authority} {r : Request}

/-- The request is a change that the authority carries out. -/
def Applies (a : Authority) (r : Request) : Prop :=
  ∃ payload signature, a.Admits r .setConfig payload signature

/-- Whether a change is carried out depends on the keys alone. -/
theorem Applies.congr (h : a.Applies r) (hkeys : a'.keys = a.keys)
    (hsession : a'.sessionKey = a.sessionKey) : a'.Applies r := by
  obtain ⟨payload, signature, ha⟩ := h
  refine ⟨payload, signature, ha.length_le, ha.split?_eq, ha.operation_eq, ?_⟩
  rw [permits_setConfig_iff, hkeys, hsession, ← permits_setConfig_iff]
  exact ha.permits

/-- The same change under two session keys takes a signature that is good over both. -/
theorem Applies.fitsTwoKeys (h : a.Applies r) (h' : a'.Applies r) (hkeys : a'.keys = a.keys)
    (hsession : a'.sessionKey ≠ a.sessionKey) :
    ∃ payload signature k k', r.split? = some (payload, signature) ∧
      a.sessionKey = some k ∧ a'.sessionKey = some k' ∧
      FitsTwoKeys a.keys r.sequence payload signature k.bytes k'.bytes := by
  obtain ⟨payload, signature, ha⟩ := h
  obtain ⟨payload', signature', ha'⟩ := h'
  obtain ⟨rfl, rfl⟩ : payload' = payload ∧ signature' = signature := by
    have hsplit := ha'.split?_eq
    rw [ha.split?_eq] at hsplit
    cases hsplit
    exact ⟨rfl, rfl⟩
  obtain ⟨-, k, hk, -⟩ := permits_setConfig_iff.mp ha.permits
  obtain ⟨-, k', hk', -⟩ := permits_setConfig_iff.mp ha'.permits
  have hverify := exists_verifyCommand_of_permits ha.permits
  have hverify' := exists_verifyCommand_of_permits ha'.permits
  rw [hk] at hverify
  rw [hk', hkeys] at hverify'
  have hne : k.bytes ≠ k'.bytes := fun hbytes => hsession (by rw [hk, hk', Block.ext hbytes])
  exact ⟨_, _, k, k', ha.split?_eq, hk, hk', hne, hverify, hverify'⟩

theorem Applies.handle_snd (h : a.Applies r) :
    ∃ table, (a.handle r).2 = { a with parameters := table } := by
  obtain ⟨payload, signature, ha⟩ := h
  rw [ha.handle_eq]
  exact ⟨_, rfl⟩

theorem Applies.sessionKey_handle_eq (h : a.Applies r) :
    (a.handle r).2.sessionKey = a.sessionKey := by
  obtain ⟨table, ha⟩ := h.handle_snd
  rw [ha]

/-- Carrying out a change takes nothing away from it: at once it would be carried out again. -/
theorem Applies.handle (h : a.Applies r) : (a.handle r).2.Applies r :=
  h.congr (keys_handle a r) h.sessionKey_handle_eq

theorem Applies.issuedKey?_handle (h : a.Applies r) : (a.handle r).1.issuedKey? = none := by
  obtain ⟨payload, signature, ha⟩ := h
  rw [Response.issuedKey?, if_neg]
  rw [operation_handle, ha.operation_eq]
  exact fun hop => absurd hop.1 (by decide)

end Replay

/-! ## Two requests of an operator -/

/-- The public half of the private key whose bytes are all one. -/
def operatorKey : PublicKey :=
  ⟨⟨[138, 136, 227, 221, 116, 9, 241, 149, 253, 82, 219, 45, 60, 186, 93, 114, 202, 103, 9, 191,
    29, 148, 18, 27, 243, 116, 136, 1, 180, 15, 111, 92], rfl⟩⟩

/-- The operator's signature of a request for a session key with sequence number 3. -/
def keySignature : Bytes :=
  [130, 97, 65, 222, 145, 229, 229, 138, 104, 248, 90, 145, 225, 207, 17, 88, 152, 86, 135, 225,
    104, 111, 117, 177, 223, 246, 202, 154, 185, 192, 127, 7, 31, 112, 143, 24, 133, 193, 216, 109,
    214, 74, 153, 119, 159, 226, 251, 252, 49, 14, 111, 44, 105, 154, 28, 189, 232, 179, 100, 118,
    112, 193, 237, 3]

/-- The operator's request for a session key. -/
def keyRequest : Request := ⟨3, 1, 64, keySignature⟩

/-- The bytes of `LOCK_LEVEL=1`. -/
def lockPayload : Bytes := [76, 79, 67, 75, 95, 76, 69, 86, 69, 76, 61, 49]

/-- The operator's signature of the change `LOCK_LEVEL=1` with sequence number 4, over a session
key of zeros. -/
def lockSignature : Bytes :=
  [119, 212, 189, 127, 216, 196, 149, 23, 55, 62, 18, 75, 50, 167, 31, 28, 129, 200, 51, 248, 98,
    123, 255, 240, 35, 147, 133, 56, 45, 114, 1, 97, 171, 205, 171, 213, 250, 195, 178, 207, 32,
    222, 155, 195, 63, 165, 26, 197, 203, 53, 2, 188, 79, 124, 219, 85, 144, 195, 62, 206, 23, 230,
    192, 15]

/-- The operator's request for the change. -/
def lockRequest : Request := ⟨4, 5, 64, lockPayload ++ lockSignature⟩

theorem split?_lockRequest : lockRequest.split? = some (lockPayload, lockSignature) := by decide

/-- Session keys that are numbered by their bytes. -/
def numberedKey (n : Nat) : Block sessionKeyLength := Block.fill 8 (UInt8.ofNat n)

theorem verify_keySignature :
    operatorKey.verify (Bytes.le32 3 ++ Bytes.le32 1 ++ []) keySignature = true := by
  decide +kernel

theorem verify_lockSignature :
    operatorKey.verify (Bytes.le32 4 ++ Bytes.le32 5 ++ lockPayload ++ (numberedKey 0).bytes)
      lockSignature = true := by
  decide +kernel

/-- The operator's signature is not good over another session key. -/
theorem verify_lockSignature_stale :
    verifyCommand operatorKey 4 .setConfig lockPayload (some (numberedKey 1).bytes) lockSignature =
      false := by
  decide +kernel

/-- The scheme takes the operator's two signatures for good. -/
class VerifiesOperator [SignatureScheme] : Prop where
  /-- The signature of the request for a session key. -/
  verify_keySignature :
    operatorKey.verify (Bytes.le32 3 ++ Bytes.le32 1 ++ []) keySignature = true
  /-- The signature of the change. -/
  verify_lockSignature :
    operatorKey.verify (Bytes.le32 4 ++ Bytes.le32 5 ++ lockPayload ++ (numberedKey 0).bytes)
      lockSignature = true

instance verifiesOperator_scheme : VerifiesOperator := ⟨verify_keySignature, verify_lockSignature⟩

/-- The node of the run. -/
def lockedNode : Authority := new [operatorKey] .initial numberedKey

section Operator

variable [SignatureScheme] [VerifiesOperator] {a : Authority}

theorem admits_keyRequest (h : operatorKey ∈ a.keys) :
    a.Admits keyRequest .getSessionKey [] keySignature :=
  ⟨by decide, by decide, rfl, permits_getSessionKey_iff.mpr
    ⟨rfl, operatorKey, h, VerifiesOperator.verify_keySignature⟩⟩

theorem admits_lockRequest (h : operatorKey ∈ a.keys) (hk : a.sessionKey = some (numberedKey 0)) :
    a.Admits lockRequest .setConfig lockPayload lockSignature :=
  ⟨by decide, split?_lockRequest, rfl, permits_setConfig_iff.mpr
    ⟨rfl, numberedKey 0, hk, operatorKey, h, VerifiesOperator.verify_lockSignature⟩⟩

theorem handleAll_keyRequest : lockedNode.handleAll [keyRequest] =
    ([keyRequest.reply .accepted (numberedKey 0).bytes],
      { lockedNode with sessionKey := some (numberedKey 0), issued := 1 }) := by
  have h := (admits_keyRequest (a := lockedNode) (List.mem_singleton.mpr rfl)).handle_eq
  rw [handleAll_singleton, h]
  rfl

theorem applies_lockRequest_handleAll :
    (lockedNode.handleAll [keyRequest]).2.Applies lockRequest := by
  rw [handleAll_keyRequest]
  exact ⟨_, _, admits_lockRequest (List.mem_singleton.mpr rfl) rfl⟩

theorem issuedKeys_lockRequest :
    issuedKeys (lockedNode.handleAll ([keyRequest] ++ [lockRequest])).1 =
      [(numberedKey 0).bytes] := by
  rw [handleAll_append, handleAll_singleton (Prod.snd _), issuedKeys_append, issuedKeys_cons,
    applies_lockRequest_handleAll.issuedKey?_handle, handleAll_keyRequest]
  rfl

theorem issuedKey?_keyRequest_again :
    (((lockedNode.handleAll [keyRequest]).2.handle lockRequest).2.handle keyRequest).1.issuedKey? =
      some (numberedKey 1).bytes := by
  obtain ⟨table, hnode⟩ := applies_lockRequest_handleAll.handle_snd
  have hadmits := admits_keyRequest (a := ((lockedNode.handleAll [keyRequest]).2.handle
    lockRequest).2) (by simp [lockedNode, new, maxPublicKeys])
  rw [hadmits.issuedKey?_handle, hnode, handleAll_keyRequest]
  rfl

theorem issuedKeys_keyRequest_again :
    issuedKeys (lockedNode.handleAll ([keyRequest] ++ lockRequest :: [keyRequest])).1 =
      [(numberedKey 0).bytes, (numberedKey 1).bytes] := by
  rw [handleAll_append, handleAll_cons (Prod.snd _), handleAll_singleton (Prod.snd _),
    issuedKeys_append, issuedKeys_cons, issuedKeys_cons,
    applies_lockRequest_handleAll.issuedKey?_handle, issuedKey?_keyRequest_again,
    handleAll_keyRequest]
  rfl

theorem sessionKey_keyRequest_again :
    (lockedNode.handleAll ([keyRequest] ++ lockRequest :: [keyRequest])).2.sessionKey =
      some (numberedKey 1) := by
  refine Option.map_injective (fun _ _ => Block.ext) ?_
  rw [lockedNode, sessionKey_handleAll_new, ← lockedNode, issuedKeys_keyRequest_again]
  rfl

end Operator

/-! ## Replays -/

/-- Replays under different session keys. `r` is a change that is carried out after the requests
`earlier`, and comes again after the requests `between`. -/
theorem applies_again [SignatureScheme] (keys : List PublicKey) (table : ParameterTable)
    (source : Nat → Block sessionKeyLength) (earlier between : List Request) (r : Request)
    (happlies : ((new keys table source).handleAll earlier).2.Applies r)
    (hdistinct :
      (issuedKeys ((new keys table source).handleAll (earlier ++ r :: between)).1).Nodup) :
    let first := ((new keys table source).handleAll earlier).2
    let since := ((first.handle r).2.handleAll between).1
    let again := ((new keys table source).handleAll (earlier ++ r :: between)).2
    (issuedKeys since = [] → again.Applies r) ∧
      (again.Applies r → issuedKeys since = [] ∨
        ∃ payload signature k k', r.split? = some (payload, signature) ∧
          first.sessionKey = some k ∧ again.sessionKey = some k' ∧
          FitsTwoKeys (keys.take maxPublicKeys) r.sequence payload signature k.bytes k'.bytes) := by
  intro first since again
  have hfirst : first.keys = keys.take maxPublicKeys := keys_handleAll _ _
  have hagain : again.keys = first.keys := by rw [hfirst]; exact keys_handleAll _ _
  have hrun : (new keys table source).handleAll (earlier ++ r :: between) =
      (((new keys table source).handleAll earlier).1 ++ (first.handle r).1 :: since,
        ((first.handle r).2.handleAll between).2) := by
    rw [handleAll_append, handleAll_cons]
  have hlast : again.sessionKey.map (·.bytes) =
      ((issuedKeys since).getLast?).or (first.sessionKey.map (·.bytes)) := by
    show ((new keys table source).handleAll _).2.sessionKey.map _ = _
    rw [hrun, sessionKey_handleAll, happlies.sessionKey_handle_eq]
  refine ⟨fun hnone => ?_, fun hsecond => ?_⟩
  · refine happlies.congr hagain ?_
    rw [hnone, List.getLast?_nil, Option.none_or] at hlast
    exact Option.map_injective (fun _ _ => Block.ext) hlast
  · by_cases hnone : issuedKeys since = []
    · exact .inl hnone
    · -- The first session key was issued in `earlier`, the second in `between`.
      right
      rw [← hfirst]
      refine happlies.fitsTwoKeys hsecond hagain fun hsame => ?_
      obtain ⟨k, hk⟩ := Option.isSome_iff_exists.mp (List.getLast?_isSome.mpr hnone)
      rw [hk, Option.some_or, hsame, sessionKey_handleAll_new] at hlast
      rw [hrun, issuedKeys_append, issuedKeys_cons, happlies.issuedKey?_handle] at hdistinct
      exact (List.nodup_append.mp hdistinct).2.2 k (List.mem_of_getLast? hlast) k
        (List.mem_of_getLast? hk) rfl

/-- After another session key has been issued the operator's change is good for nothing. -/
theorem applies_again_lockRequest :
    let run := lockedNode.handleAll ([keyRequest] ++ lockRequest :: [keyRequest])
    (lockedNode.handleAll [keyRequest]).2.Applies lockRequest ∧ (issuedKeys run.1).Nodup ∧
      ¬ run.2.Applies lockRequest := by
  have hnodup : (issuedKeys
      (lockedNode.handleAll ([keyRequest] ++ lockRequest :: [keyRequest])).1).Nodup := by
    rw [issuedKeys_keyRequest_again]
    decide
  have hagain := applies_again [operatorKey] .initial numberedKey [keyRequest] [keyRequest]
    lockRequest applies_lockRequest_handleAll hnodup
  dsimp only at hagain
  rw [← lockedNode] at hagain
  refine ⟨applies_lockRequest_handleAll, hnodup, fun h => ?_⟩
  obtain hnone | ⟨payload, signature, k, k', hsplit, -, hk', hfits⟩ := hagain.2 h
  · have hissued : issuedKeys (((lockedNode.handleAll [keyRequest]).2.handle
        lockRequest).2.handleAll [keyRequest]).1 = [(numberedKey 1).bytes] := by
      rw [handleAll_singleton, issuedKeys_cons, issuedKey?_keyRequest_again]
      rfl
    cases hissued.symm.trans hnone
  · rw [split?_lockRequest] at hsplit
    obtain ⟨rfl, rfl⟩ := Prod.mk.inj (Option.some.inj hsplit)
    obtain rfl := Option.some.inj (sessionKey_keyRequest_again.symm.trans hk')
    obtain ⟨key, hkey, hverify⟩ := hfits.verify'
    obtain rfl := List.mem_singleton.mp hkey
    cases verify_lockSignature_stale.symm.trans hverify

/-- A change that was carried out may be carried out again, though no session key was issued
twice. -/
theorem not_applies_once :
    ¬ ∀ (keys : List PublicKey) (table : ParameterTable) (source : Nat → Block sessionKeyLength)
        (earlier between : List Request) (r : Request),
      ((new keys table source).handleAll earlier).2.Applies r →
        (issuedKeys ((new keys table source).handleAll (earlier ++ r :: between)).1).Nodup →
          ¬ ((new keys table source).handleAll (earlier ++ r :: between)).2.Applies r := by
  intro h
  have hlater := h [operatorKey] .initial numberedKey [keyRequest] [] lockRequest
  rw [← lockedNode] at hlater
  refine hlater applies_lockRequest_handleAll ?_ ?_
  · rw [issuedKeys_lockRequest]
    simp
  · rw [handleAll_concat_snd]
    exact applies_lockRequest_handleAll.handle

end Authority

end SignedControl
