import SignedControl.Command.Signing

/-!
# What the signed bytes of a command determine

The signed bytes begin with two words of fixed width. Payload and session key stand behind them
without a mark in between, so that they can be told apart only where the length of the session key
is known: then the signed bytes determine the whole command.

* `canonicalMessage_inj`: commands with the same signed bytes are the same, and so are the session
  keys that they are signed over.
* `canonicalMessage_setConfig_eq_iff`: what is left of this if nothing is known of the length.
* `canonicalMessage_eq_error_iff`, `canonicalMessage_congr`: when there are no signed bytes, and
  when the session key does not matter.
* `canonicalMessage_determines`: these together.
* `exists_message_of_signRequest`: what is signed.
-/

namespace SignedControl

theorem Operation.code_inj {op op' : Operation} (h : op.code = op'.code) : op = op' := by
  have hcode := op'.ofCode?_code
  rw [← h, op.ofCode?_code] at hcode
  exact Option.some.inj hcode

/-- The two words in front determine sequence number and operation. -/
theorem signedHead_inj {sequence sequence' : UInt32} {operation operation' : Operation}
    {tail tail' : Bytes}
    (h : Bytes.le32 sequence ++ Bytes.le32 operation.code ++ tail =
      Bytes.le32 sequence' ++ Bytes.le32 operation'.code ++ tail') :
    sequence = sequence' ∧ operation = operation' ∧ tail = tail' := by
  obtain ⟨hhead, htail⟩ := List.append_inj h rfl
  obtain ⟨hsequence, hcode⟩ := List.append_inj hhead rfl
  exact ⟨Bytes.le32_injective hsequence, Operation.code_inj (Bytes.le32_injective hcode), htail⟩

/-- The signed bytes of a command are its head, its payload and the session key, if the operation
has its signatures cover one. -/
theorem canonicalMessage_eq_ok {sequence : UInt32} {operation : Operation} {payload : Bytes}
    {sessionKey : Option Bytes} {message : Bytes}
    (h : canonicalMessage sequence operation payload sessionKey = .ok message) :
    ∃ suffix, message = Bytes.le32 sequence ++ Bytes.le32 operation.code ++ (payload ++ suffix) ∧
      (operation.needsSessionKey = false → suffix = []) ∧
      (operation.needsSessionKey = true → sessionKey = some suffix) := by
  unfold canonicalMessage at h
  by_cases hneeds : operation.needsSessionKey = true
  · rw [if_pos hneeds] at h
    cases sessionKey with
    | none => cases h
    | some key =>
      cases h
      refine ⟨key, by rw [List.append_assoc], fun hnot => ?_, fun _ => rfl⟩
      cases hneeds.symm.trans hnot
  · rw [if_neg hneeds] at h
    cases h
    exact ⟨[], by rw [List.append_nil], fun _ => rfl, fun h => absurd h hneeds⟩

/-- A command has signed bytes, unless they have to cover a session key and there is none. -/
theorem canonicalMessage_eq_error_iff {sequence : UInt32} {operation : Operation} {payload : Bytes}
    {sessionKey : Option Bytes} {e : SignError} :
    canonicalMessage sequence operation payload sessionKey = .error e ↔
      operation.needsSessionKey = true ∧ sessionKey = none ∧ e = .missingSessionKey operation := by
  unfold canonicalMessage
  by_cases hneeds : operation.needsSessionKey = true
  · rw [if_pos hneeds]
    cases sessionKey with
    | none => simp [hneeds, eq_comm]
    | some key => simp
  · simp [hneeds]

/-- The session key matters only if the operation has its signatures cover one. -/
theorem canonicalMessage_congr {operation : Operation} {sessionKey sessionKey' : Option Bytes}
    (h : operation = .setConfig → sessionKey = sessionKey') (sequence : UInt32) (payload : Bytes) :
    canonicalMessage sequence operation payload sessionKey =
      canonicalMessage sequence operation payload sessionKey' := by
  cases operation with
  | getSessionKey => rfl
  | setConfig => rw [h rfl]

/-- Commands with the same signed bytes are the same command, signed over the same session key, if
session keys that are both covered have the same length. -/
theorem canonicalMessage_inj {sequence sequence' : UInt32} {operation operation' : Operation}
    {payload payload' message : Bytes} {sessionKey sessionKey' : Option Bytes}
    (h : canonicalMessage sequence operation payload sessionKey = .ok message)
    (h' : canonicalMessage sequence' operation' payload' sessionKey' = .ok message)
    (hlength : operation.needsSessionKey = true → operation'.needsSessionKey = true →
      ∀ key key', sessionKey = some key → sessionKey' = some key' → key.length = key'.length) :
    sequence = sequence' ∧ operation = operation' ∧ payload = payload' ∧
      (operation.needsSessionKey = true → sessionKey = sessionKey') := by
  obtain ⟨suffix, rfl, hnone, hsome⟩ := canonicalMessage_eq_ok h
  obtain ⟨suffix', hmessage, hnone', hsome'⟩ := canonicalMessage_eq_ok h'
  obtain ⟨rfl, rfl, htail⟩ := signedHead_inj hmessage
  -- The tails are cut at the same place, counted from their ends.
  have hsuffix : suffix.length = suffix'.length := by
    cases hneeds : operation.needsSessionKey with
    | false => rw [hnone hneeds, hnone' hneeds]
    | true => exact hlength hneeds hneeds suffix suffix' (hsome hneeds) (hsome' hneeds)
  obtain ⟨rfl, rfl⟩ := List.append_inj' htail hsuffix
  exact ⟨rfl, rfl, rfl, fun hneeds => (hsome hneeds).trans (hsome' hneeds).symm⟩

/-- Without a word about the length, the signed bytes of a change determine payload and session key
only as one string: what ends the payload may as well begin the session key. -/
theorem canonicalMessage_setConfig_eq_iff {sequence sequence' : UInt32}
    {payload payload' sessionKey sessionKey' : Bytes} :
    canonicalMessage sequence .setConfig payload (some sessionKey) =
        canonicalMessage sequence' .setConfig payload' (some sessionKey') ↔
      sequence = sequence' ∧ payload ++ sessionKey = payload' ++ sessionKey' := by
  rw [canonicalMessage_setConfig, canonicalMessage_setConfig, Except.ok.injEq,
    List.append_assoc _ payload, List.append_assoc _ payload']
  constructor
  · intro h
    have hhead : Bytes.le32 sequence ++ Bytes.le32 Operation.setConfig.code ++
        (payload ++ sessionKey) =
      Bytes.le32 sequence' ++ Bytes.le32 Operation.setConfig.code ++ (payload' ++ sessionKey') := h
    obtain ⟨hsequence, -, htail⟩ := signedHead_inj hhead
    exact ⟨hsequence, htail⟩
  · rintro ⟨rfl, htail⟩
    rw [htail]

example : canonicalMessage 7 .setConfig [0x41, 0x3d] (some [0x31]) =
    canonicalMessage 7 .setConfig [0x41] (some [0x3d, 0x31]) := rfl

/-- Two commands that have signed bytes, over session keys of the same length where both are signed
over one, have the same if and only if they are the same command, signed over the same session key
if it is a change. No session key matters to a request for one. There are no signed bytes if and
only if the operation has its signatures cover a session key and there is none. -/
theorem canonicalMessage_determines (sequence sequence' : UInt32)
    (operation operation' : Operation) (payload payload' : Bytes)
    (sessionKey sessionKey' : Option Bytes) :
    (∀ message message', canonicalMessage sequence operation payload sessionKey = .ok message →
      canonicalMessage sequence' operation' payload' sessionKey' = .ok message' →
      (operation.needsSessionKey = true → operation'.needsSessionKey = true →
        sessionKey.map List.length = sessionKey'.map List.length) →
      (message = message' ↔ sequence = sequence' ∧ operation = operation' ∧ payload = payload' ∧
        (operation = .setConfig → sessionKey = sessionKey'))) ∧
    (∀ other, canonicalMessage sequence .getSessionKey payload sessionKey =
      canonicalMessage sequence .getSessionKey payload other) ∧
    ∀ e, canonicalMessage sequence operation payload sessionKey = .error e ↔
      operation.needsSessionKey = true ∧ sessionKey = none ∧ e = .missingSessionKey operation := by
  refine ⟨fun message message' hmessage hmessage' hlength => ⟨?_, ?_⟩, fun _ => rfl,
    fun _ => canonicalMessage_eq_error_iff⟩
  · rintro rfl
    have hkeys : operation.needsSessionKey = true → operation'.needsSessionKey = true →
        ∀ key key', sessionKey = some key → sessionKey' = some key' → key.length = key'.length := by
      rintro hneeds hneeds' key key' rfl rfl
      exact Option.some.inj (hlength hneeds hneeds')
    obtain ⟨hsequence, hoperation, hpayload, hsession⟩ :=
      canonicalMessage_inj hmessage hmessage' hkeys
    exact ⟨hsequence, hoperation, hpayload, fun hchange => hsession (by rw [hchange]; rfl)⟩
  · rintro ⟨rfl, rfl, rfl, hsession⟩
    rw [canonicalMessage_congr hsession, hmessage'] at hmessage
    exact (Except.ok.inj hmessage).symm

/-- A request for a session key and a change are told apart by their heads, even if all that follows
is the same; and a change is told apart from itself over another session key. -/
theorem canonicalMessage_determines_sameTail :
    (∀ message, canonicalMessage 7 .getSessionKey [0x41, 0x3d] none = .ok message →
      canonicalMessage 7 .setConfig [0x41] (some [0x3d]) ≠ .ok message) ∧
    (∀ message, canonicalMessage 7 .setConfig [0x41] (some [0x3d]) = .ok message →
      canonicalMessage 7 .setConfig [0x41] (some [0x3e]) ≠ .ok message) ∧
    canonicalMessage 7 .setConfig [0x41] none = .error (.missingSessionKey .setConfig) := by
  refine ⟨fun message h h' => ?_, fun message h h' => ?_, ?_⟩
  · obtain ⟨hiff, -, -⟩ := canonicalMessage_determines 7 7 .getSessionKey .setConfig [0x41, 0x3d]
      [0x41] none (some [0x3d])
    obtain ⟨-, hoperation, -, -⟩ := (hiff message message h h' nofun).mp rfl
    cases hoperation
  · obtain ⟨hiff, -, -⟩ := canonicalMessage_determines 7 7 .setConfig .setConfig [0x41] [0x41]
      (some [0x3d]) (some [0x3e])
    obtain ⟨-, -, -, hsession⟩ := (hiff message message h h' fun _ _ => rfl).mp rfl
    exact absurd (hsession rfl) (by decide)
  · obtain ⟨-, -, herror⟩ := canonicalMessage_determines 7 7 .setConfig .setConfig [0x41] [0x41]
      none none
    exact (herror _).mpr ⟨rfl, rfl, rfl⟩

/-- What a key signs as a command are its signed bytes. -/
theorem exists_message_of_signRequest [SignatureScheme] {key : PrivateKey} {sequence : UInt32}
    {operation : Operation} {payload : Bytes} {sessionKey : Option Bytes} {request : SignedRequest}
    (h : key.signRequest sequence operation payload sessionKey = .ok request) :
    ∃ message, canonicalMessage sequence operation payload sessionKey = .ok message ∧
      request.signature = key.sign message := by
  unfold PrivateKey.signRequest PrivateKey.signCommand at h
  cases hmessage : canonicalMessage sequence operation payload sessionKey with
  | error e =>
    rw [hmessage] at h
    cases h
  | ok message =>
    rw [hmessage] at h
    cases h
    exact ⟨message, rfl, rfl⟩

end SignedControl
