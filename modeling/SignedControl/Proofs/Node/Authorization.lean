import SignedControl.Node.Authority
import SignedControl.Proofs.Command.Binding
import SignedControl.Proofs.Parameter.Change

/-!
# What a node lets a request do

A request is *admitted* if it passes every check of `Authority.handle`: size, split, operation and
signature. Admitted requests are carried out, all others leave the authority as it is
(`handle_cases`). The session key that signatures have to cover is always the one in the last reply
that issued a key (`sessionKey_handleAll`), so that the checks can be read off the history of a run:

* `parameters_change_only_if_signed`: in every run of a new authority, a request changes the
  parameters only if a trusted key has signed it over the key issued last, and changes the session
  key only if a trusted key has signed it as a request for one.
-/

namespace SignedControl

/-- A result with a name survives the way through its code. -/
theorem Request.commandResult_reply (r : Request) {result : CommandResult} (data : Bytes)
    (h : ∀ code, result ≠ .invalid code) : (r.reply result data).commandResult = result := by
  cases result with
  | invalid code => exact absurd rfl (h code)
  | _ => rfl

namespace Authority

variable [SignatureScheme] {a : Authority} {r : Request} {operation : Operation}
  {payload signature : Bytes}

/-! ## Signatures -/

theorem permits_getSessionKey_iff {sequence : UInt32} :
    a.permits sequence .getSessionKey payload signature = true ↔
      signature.length = signatureLength ∧ ∃ key ∈ a.keys,
        key.verify (Bytes.le32 sequence ++ Bytes.le32 1 ++ payload) signature = true := by
  simp only [permits, Bool.and_eq_true, beq_iff_eq, List.any_eq_true, verifyCommand,
    canonicalMessage_getSessionKey]

theorem permits_setConfig_iff {sequence : UInt32} :
    a.permits sequence .setConfig payload signature = true ↔
      signature.length = signatureLength ∧ ∃ sessionKey, a.sessionKey = some sessionKey ∧
        ∃ key ∈ a.keys, key.verify (Bytes.le32 sequence ++ Bytes.le32 5 ++ payload ++
          sessionKey.bytes) signature = true := by
  cases h : a.sessionKey with
  | none => simp [permits, h, verifyCommand, canonicalMessage, Operation.needsSessionKey]
  | some sessionKey =>
    simp only [permits, h, Bool.and_eq_true, beq_iff_eq, List.any_eq_true, verifyCommand,
      Option.map_some, canonicalMessage_setConfig, Option.some.injEq, exists_eq_left']

theorem exists_verifyCommand_of_permits {sequence : UInt32}
    (h : a.permits sequence operation payload signature = true) :
    ∃ key ∈ a.keys,
      verifyCommand key sequence operation payload (a.sessionKey.map (·.bytes)) signature =
        true := by
  simp only [permits, Bool.and_eq_true, List.any_eq_true] at h
  exact h.2

/-! ## Admitted requests -/

/-- A request that passes every check, with what it asks for. -/
structure Admits (a : Authority) (r : Request) (operation : Operation)
    (payload signature : Bytes) : Prop where
  /-- It is not too long. -/
  length_le : r.data.length ≤ maxCommandData
  /-- Its data are the payload and the signature. -/
  split?_eq : r.split? = some (payload, signature)
  /-- Its operation is known. -/
  operation_eq : r.operation = operation.code
  /-- A trusted key has signed it. -/
  permits : a.permits r.sequence operation payload signature = true

theorem Admits.length_signature (h : a.Admits r operation payload signature) :
    signature.length = signatureLength := by
  have hp := h.permits
  simp only [Authority.permits, Bool.and_eq_true, beq_iff_eq] at hp
  exact hp.1

theorem Admits.handle_eq (h : a.Admits r operation payload signature) :
    a.handle r = a.execute r operation payload := by
  unfold handle
  rw [if_neg (Nat.not_lt.mpr h.length_le), h.split?_eq, h.operation_eq]
  simp only [Operation.ofCode?_code]
  rw [if_pos h.permits]

/-- What a signed command is admitted as: the command. -/
theorem Admits.of_toRequest {s : SignedRequest}
    (h : a.Admits s.toRequest operation payload signature) :
    operation = s.operation ∧ payload = s.payload ∧ signature = s.signature.bytes := by
  have hsplit := h.split?_eq
  rw [s.split?_toRequest] at hsplit
  cases hsplit
  exact ⟨(Operation.code_inj h.operation_eq).symm, rfl, rfl⟩

/-- A request that is not admitted is turned away, and nothing changes. -/
theorem handle_eq_of_not_admits
    (h : ∀ operation payload signature, ¬ a.Admits r operation payload signature) :
    ∃ result, (result = .denied ∨ result = .unsupported ∧ Operation.ofCode? r.operation = none) ∧
      a.handle r = (r.reply result [], a) := by
  unfold handle
  split
  · exact ⟨_, .inl rfl, rfl⟩
  · next hlen =>
    split
    · exact ⟨_, .inl rfl, rfl⟩
    · next payload signature hsplit =>
      split
      · next hop => exact ⟨_, .inr ⟨rfl, hop⟩, rfl⟩
      · next operation hop =>
        split
        · next hperm =>
          exact absurd ⟨Nat.not_lt.mp hlen, hsplit, Operation.ofCode?_eq_some_iff.mp hop, hperm⟩
            (h operation payload signature)
        · exact ⟨_, .inl rfl, rfl⟩

/-- What a trusted key has signed is admitted, if it was signed over the right session key. -/
theorem Admits.of_signRequest [LawfulSignatureScheme] {key : PrivateKey}
    (hkey : key.publicKey ∈ a.keys) {sequence : UInt32} {sessionKey : Option Bytes}
    {s : SignedRequest} (hs : key.signRequest sequence operation payload sessionKey = .ok s)
    (hlen : payload.length + signatureLength ≤ maxCommandData)
    (hsession : operation.needsSessionKey = true → sessionKey = a.sessionKey.map (·.bytes)) :
    a.Admits s.toRequest operation payload s.signature.bytes := by
  unfold PrivateKey.signRequest PrivateKey.signCommand at hs
  cases hm : canonicalMessage sequence operation payload sessionKey with
  | error e => rw [hm] at hs; cases hs
  | ok message =>
    rw [hm] at hs
    cases hs
    have hmessage : canonicalMessage sequence operation payload (a.sessionKey.map (·.bytes)) =
        .ok message := by
      rw [← hm]
      cases operation with
      | getSessionKey => rfl
      | setConfig => rw [hsession rfl]
    refine ⟨?_, SignedRequest.split?_toRequest _, rfl, ?_⟩
    · rw [SignedRequest.toRequest, List.length_append, (key.sign message).length_eq]
      exact hlen
    · simp only [Authority.permits, Bool.and_eq_true, beq_iff_eq, List.any_eq_true, verifyCommand]
      refine ⟨(key.sign message).length_eq, key.publicKey, hkey, ?_⟩
      simp only [SignedRequest.toRequest, hmessage]
      exact PublicKey.verify_sign key message

/-- All that handling a request can do: issue a session key, apply a change, or nothing. -/
theorem handle_cases (a : Authority) (r : Request) :
    (∃ payload signature, a.Admits r .getSessionKey payload signature ∧
      a.handle r = (r.reply .accepted (a.source a.issued).bytes,
        { a with sessionKey := some (a.source a.issued), issued := a.issued + 1 })) ∨
    (∃ payload signature, a.Admits r .setConfig payload signature ∧
      a.handle r = (r.reply (a.parameters.applyConfig payload).1 [],
        { a with parameters := (a.parameters.applyConfig payload).2 })) ∨
    ((∀ operation payload signature, ¬ a.Admits r operation payload signature) ∧
      ∃ result, (result = .denied ∨ result = .unsupported ∧ Operation.ofCode? r.operation = none) ∧
        a.handle r = (r.reply result [], a)) := by
  by_cases h : ∃ operation payload signature, a.Admits r operation payload signature
  · obtain ⟨operation, payload, signature, h⟩ := h
    cases operation with
    | getSessionKey => exact .inl ⟨payload, signature, h, h.handle_eq⟩
    | setConfig => exact .inr (.inl ⟨payload, signature, h, h.handle_eq⟩)
  · simp only [not_exists] at h
    exact .inr (.inr ⟨h, handle_eq_of_not_admits h⟩)

/-- An accepted change was admitted, and the table has taken it. -/
theorem accepted_change {s : SignedRequest} (hop : s.operation = .setConfig)
    (h : (a.handle s.toRequest).1.commandResult = .accepted) :
    a.Admits s.toRequest .setConfig s.payload s.signature.bytes ∧
      (a.parameters.applyConfig s.payload).1 = .accepted := by
  obtain ⟨payload, signature, ha, -⟩ | ⟨payload, signature, ha, he⟩ | ⟨-, result, hr, he⟩ :=
    a.handle_cases s.toRequest
  · have hop' := ha.of_toRequest.1
    rw [hop] at hop'
    cases hop'
  · obtain ⟨-, rfl, rfl⟩ := ha.of_toRequest
    rw [he] at h
    rcases a.parameters.applyConfig_fst s.payload with hres | hres
    · exact ⟨ha, hres⟩
    · dsimp only at h
      rw [hres] at h
      cases h
  · rw [he] at h
    rcases hr with rfl | ⟨rfl, -⟩ <;> cases h

/-! ## What handling keeps -/

@[simp] theorem keys_handle (a : Authority) (r : Request) : (a.handle r).2.keys = a.keys := by
  obtain ⟨_, _, -, h⟩ | ⟨_, _, -, h⟩ | ⟨-, _, -, h⟩ := a.handle_cases r <;> rw [h]

@[simp] theorem sequence_handle (a : Authority) (r : Request) :
    (a.handle r).1.sequence = r.sequence := by
  obtain ⟨_, _, -, h⟩ | ⟨_, _, -, h⟩ | ⟨-, _, -, h⟩ := a.handle_cases r <;> rw [h] <;> rfl

@[simp] theorem operation_handle (a : Authority) (r : Request) :
    (a.handle r).1.operation = r.operation := by
  obtain ⟨_, _, -, h⟩ | ⟨_, _, -, h⟩ | ⟨-, _, -, h⟩ := a.handle_cases r <;> rw [h] <;> rfl

/-- Only an admitted change touches the parameters. -/
theorem parameters_handle_ne (h : (a.handle r).2.parameters ≠ a.parameters) :
    ∃ payload signature, a.Admits r .setConfig payload signature := by
  obtain ⟨_, _, -, he⟩ | ⟨payload, signature, ha, -⟩ | ⟨-, _, -, he⟩ := a.handle_cases r
  · rw [he] at h; exact absurd rfl h
  · exact ⟨payload, signature, ha⟩
  · rw [he] at h; exact absurd rfl h

/-- Only an admitted request for a session key touches the session key. -/
theorem sessionKey_handle_ne (h : (a.handle r).2.sessionKey ≠ a.sessionKey) :
    ∃ payload signature, a.Admits r .getSessionKey payload signature := by
  obtain ⟨payload, signature, ha, -⟩ | ⟨_, _, -, he⟩ | ⟨-, _, -, he⟩ := a.handle_cases r
  · exact ⟨payload, signature, ha⟩
  · rw [he] at h; exact absurd rfl h
  · rw [he] at h; exact absurd rfl h

end Authority

/-! ## Runs -/

/-- The session key that a reply issues: the data of an accepted request for one. -/
def Response.issuedKey? (r : Response) : Option Bytes :=
  if r.operation = Operation.getSessionKey.code ∧ r.commandResult = .accepted then some r.data
  else none

theorem Response.data_of_issuedKey? {r : Response} {key : Bytes} (h : r.issuedKey? = some key) :
    r.data = key := by
  unfold issuedKey? at h
  split at h
  · exact Option.some.inj h
  · cases h

/-- The session keys that replies issue, in order. -/
def issuedKeys (replies : List Response) : List Bytes := replies.filterMap Response.issuedKey?

theorem issuedKeys_cons (r : Response) (rs : List Response) :
    issuedKeys (r :: rs) = r.issuedKey?.toList ++ issuedKeys rs := by
  rw [issuedKeys, List.filterMap_cons]
  cases r.issuedKey? <;> rfl

theorem issuedKeys_append (rs rs' : List Response) :
    issuedKeys (rs ++ rs') = issuedKeys rs ++ issuedKeys rs' := List.filterMap_append

/-- The key issued last, by its place among the replies. -/
theorem getLast?_issuedKeys {rs : List Response} {n : Nat} {r : Response} {key : Bytes}
    (hr : rs[n]? = some r) (hkey : r.issuedKey? = some key)
    (hlater : ∀ n' r', n < n' → rs[n']? = some r' → r'.issuedKey? = none) :
    (issuedKeys rs).getLast? = some key := by
  obtain ⟨hlt, rfl⟩ := List.getElem?_eq_some_iff.mp hr
  have hnil : issuedKeys (rs.drop (n + 1)) = [] := by
    rw [issuedKeys, List.filterMap_eq_nil_iff]
    intro r' hr'
    obtain ⟨i, hi⟩ := List.mem_iff_getElem?.mp hr'
    rw [List.getElem?_drop] at hi
    exact hlater _ r' (by omega) hi
  have hsplit : rs = rs.take n ++ rs[n] :: rs.drop (n + 1) := by
    rw [← List.drop_eq_getElem_cons hlt, List.take_append_drop]
  rw [hsplit, issuedKeys_append, issuedKeys_cons, hnil, hkey]
  simp

/-- Where no key is issued twice, different replies issue different keys. -/
theorem issuedKeys_ne {rs : List Response} (hnodup : (issuedKeys rs).Nodup) {n n' : Nat}
    {r r' : Response} {key key' : Bytes} (hlt : n < n') (hr : rs[n]? = some r)
    (hr' : rs[n']? = some r') (hkey : r.issuedKey? = some key)
    (hkey' : r'.issuedKey? = some key') : key ≠ key' := by
  have hsplit : rs = rs.take n' ++ rs.drop n' := (List.take_append_drop n' rs).symm
  rw [hsplit, issuedKeys_append] at hnodup
  refine (List.nodup_append.mp hnodup).2.2 key ?_ key' ?_
  · refine List.mem_filterMap.mpr ⟨r, List.mem_of_getElem? (i := n) ?_, hkey⟩
    rw [List.getElem?_take_of_lt hlt, hr]
  · refine List.mem_filterMap.mpr ⟨r', List.mem_of_getElem? (i := 0) ?_, hkey'⟩
    rw [List.getElem?_drop, Nat.add_zero, hr']

namespace Authority

variable [SignatureScheme]

theorem handleAll_cons (a : Authority) (r : Request) (rs : List Request) :
    a.handleAll (r :: rs) =
      ((a.handle r).1 :: ((a.handle r).2.handleAll rs).1, ((a.handle r).2.handleAll rs).2) := rfl

theorem handleAll_singleton (a : Authority) (r : Request) :
    a.handleAll [r] = ([(a.handle r).1], (a.handle r).2) := rfl

theorem handleAll_append (a : Authority) (rs rs' : List Request) :
    a.handleAll (rs ++ rs') =
      ((a.handleAll rs).1 ++ ((a.handleAll rs).2.handleAll rs').1,
        ((a.handleAll rs).2.handleAll rs').2) := by
  induction rs generalizing a with
  | nil => rfl
  | cons r rs ih => simp only [List.cons_append, handleAll_cons, ih]

/-- The last request of a run finds the node as the others have left it. -/
theorem handleAll_concat_snd (a : Authority) (rs : List Request) (r : Request) :
    (a.handleAll (rs ++ [r])).2 = ((a.handleAll rs).2.handle r).2 := by
  rw [handleAll_append, handleAll_singleton]

@[simp] theorem length_handleAll (a : Authority) (rs : List Request) :
    (a.handleAll rs).1.length = rs.length := by
  induction rs generalizing a with
  | nil => rfl
  | cons r rs ih => rw [handleAll_cons, List.length_cons, ih, List.length_cons]

@[simp] theorem keys_handleAll (a : Authority) (rs : List Request) :
    (a.handleAll rs).2.keys = a.keys := by
  induction rs generalizing a with
  | nil => rfl
  | cons r rs ih => rw [handleAll_cons, ih, keys_handle]

/-- An admitted request for a session key issues the next one of the source. -/
theorem Admits.issuedKey?_handle {a : Authority} {r : Request} {payload signature : Bytes}
    (h : a.Admits r .getSessionKey payload signature) :
    (a.handle r).1.issuedKey? = some (a.source a.issued).bytes := by
  rw [h.handle_eq, Response.issuedKey?, if_pos ⟨h.operation_eq, rfl⟩]
  rfl

/-- What one step does to the session key: it becomes the key that the reply issues, if any. -/
theorem sessionKey_handle (a : Authority) (r : Request) :
    (a.handle r).2.sessionKey.map (·.bytes) =
      ((a.handle r).1.issuedKey?).or (a.sessionKey.map (·.bytes)) := by
  obtain ⟨_, _, ha, h⟩ | ⟨_, _, ha, h⟩ | ⟨-, result, hr, h⟩ := a.handle_cases r
  · rw [ha.issuedKey?_handle, h]
    rfl
  · have hop : ((a.handle r).1.operation = Operation.getSessionKey.code) = False := by
      rw [operation_handle, ha.operation_eq]; decide
    simp only [Response.issuedKey?, hop, false_and, if_false, Option.none_or]
    rw [h]
  · have hres : ((a.handle r).1.commandResult = .accepted) = False := by
      rw [h]
      rcases hr with rfl | ⟨rfl, -⟩ <;> simp [Request.reply, Response.commandResult] <;> decide
    simp only [Response.issuedKey?, hres, and_false, if_false, Option.none_or]
    rw [h]

/-- The session key after a run is the one that was issued last. -/
theorem sessionKey_handleAll (a : Authority) (rs : List Request) :
    (a.handleAll rs).2.sessionKey.map (·.bytes) =
      ((issuedKeys (a.handleAll rs).1).getLast?).or (a.sessionKey.map (·.bytes)) := by
  induction rs generalizing a with
  | nil => rfl
  | cons r rs ih =>
    simp only [handleAll_cons]
    rw [ih, sessionKey_handle, issuedKeys_cons, List.getLast?_append, Option.or_assoc]
    cases (a.handle r).1.issuedKey? <;> rfl

theorem sessionKey_handleAll_new (keys : List PublicKey) (table : ParameterTable)
    (source : Nat → Block sessionKeyLength) (rs : List Request) :
    ((new keys table source).handleAll rs).2.sessionKey.map (·.bytes) =
      (issuedKeys ((new keys table source).handleAll rs).1).getLast? := by
  rw [sessionKey_handleAll]
  exact Option.or_none

/-- What admits a request, read off its bytes: `data` is cut before the last 64 bytes. -/
theorem Admits.cut {a : Authority} {r : Request} {operation : Operation}
    {payload signature : Bytes} (h : a.Admits r operation payload signature) :
    r.data.length ≤ 220 ∧ r.signatureLength = 64 ∧ 64 ≤ r.data.length ∧
      payload = r.data.take (r.data.length - 64) ∧
      signature = r.data.drop (r.data.length - 64) := by
  obtain ⟨hdata, hlen⟩ := Request.split?_eq_some_iff.mp h.split?_eq
  have h64 : signature.length = 64 := h.length_signature
  have hsum : r.data.length = payload.length + 64 := by
    rw [hdata, List.length_append, h64]
  have hsub : r.data.length - 64 = payload.length := by omega
  refine ⟨h.length_le, ?_, by omega, ?_, ?_⟩
  · rw [← UInt32.toNat_inj, ← hlen, h64]; rfl
  · rw [hsub, hdata, List.take_left]
  · rw [hsub, hdata, List.drop_left]

/-- In every run of a new authority, `earlier` being the requests before the one at hand: the
parameters change only at a change of at most 220 bytes whose last 64 bytes are a trusted key's
signature over it and the session key issued last, so never before one has been issued; and the
session key changes only at a request for one that a trusted key has signed. -/
theorem parameters_change_only_if_signed (keys : List PublicKey) (table : ParameterTable)
    (source : Nat → Block sessionKeyLength) (earlier : List Request) (r : Request) :
    let run := (new keys table source).handleAll earlier
    let next := (run.2.handle r).2
    let payload := r.data.take (r.data.length - 64)
    let signature := r.data.drop (r.data.length - 64)
    (next.parameters ≠ run.2.parameters →
      r.operation = 5 ∧ r.data.length ≤ 220 ∧ r.signatureLength = 64 ∧ 64 ≤ r.data.length ∧
        ∃ sessionKey, (issuedKeys run.1).getLast? = some sessionKey ∧
          ∃ key ∈ keys.take 10, key.verify (Bytes.le32 r.sequence ++ Bytes.le32 5 ++ payload ++
            sessionKey) signature = true) ∧
      (issuedKeys run.1 = [] → next.parameters = run.2.parameters) ∧
      (next.sessionKey ≠ run.2.sessionKey →
        r.operation = 1 ∧ r.data.length ≤ 220 ∧ r.signatureLength = 64 ∧ 64 ≤ r.data.length ∧
          ∃ key ∈ keys.take 10,
            key.verify (Bytes.le32 r.sequence ++ Bytes.le32 1 ++ payload) signature = true) := by
  intro run next payload signature
  have hkeys : run.2.keys = keys.take 10 := keys_handleAll _ _
  have hlast := sessionKey_handleAll_new keys table source earlier
  have hchange : next.parameters ≠ run.2.parameters →
      r.operation = 5 ∧ r.data.length ≤ 220 ∧ r.signatureLength = 64 ∧ 64 ≤ r.data.length ∧
        ∃ sessionKey, (issuedKeys run.1).getLast? = some sessionKey ∧
          ∃ key ∈ keys.take 10, key.verify (Bytes.le32 r.sequence ++ Bytes.le32 5 ++ payload ++
            sessionKey) signature = true := by
    intro hne
    obtain ⟨p, s, ha⟩ := parameters_handle_ne hne
    obtain ⟨h220, h64, hle, hp, hs⟩ := ha.cut
    obtain ⟨-, sessionKey, hsome, key, hmem, hverify⟩ := permits_setConfig_iff.mp ha.permits
    rw [hsome] at hlast
    rw [hkeys] at hmem
    rw [hp, hs] at hverify
    exact ⟨ha.operation_eq, h220, h64, hle, sessionKey.bytes, hlast.symm, key, hmem, hverify⟩
  refine ⟨hchange, fun hnil => ?_, fun hne => ?_⟩
  · apply Decidable.byContradiction
    intro hne
    obtain ⟨-, -, -, -, sessionKey, hsome, -⟩ := hchange hne
    rw [hnil] at hsome
    cases hsome
  · obtain ⟨p, s, ha⟩ := sessionKey_handle_ne hne
    obtain ⟨h220, h64, hle, hp, hs⟩ := ha.cut
    obtain ⟨-, key, hmem, hverify⟩ := permits_getSessionKey_iff.mp ha.permits
    rw [hkeys] at hmem
    rw [hp, hs] at hverify
    exact ⟨ha.operation_eq, h220, h64, hle, key, hmem, hverify⟩

end Authority

end SignedControl
