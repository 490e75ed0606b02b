import Mathlib.Logic.Basic
import SignedControl.Proofs.Node.Replay

/-!
# The order in which a node refuses requests

Several things may be wrong with a request at once, and the answer tells the first of them only.
What comes first is whether the data fit, then whether the operation is known, then whether the
request is authorised. `Decides` lists the five answers, each with the conditions in front of it.

* `Request.Misfits`, `Request.IsUnknown`, `Authority.Unauthorised`: what may be wrong, said of the
  bytes of the request and of what the node holds.
* `Authority.decides_handle`: the answer is one of the five.
* `Authority.handle_by_precedence`: when it is which, what it carries, and what it changes.
-/

namespace SignedControl

namespace Request

variable {r : Request}

/-- The data of a request do not fit: they are too long for a node, or shorter than the signature
that they are said to end in. -/
def Misfits (r : Request) : Prop :=
  220 < r.data.length ∨ r.data.length < r.signatureLength.toNat

/-- No operation has the code. -/
def IsUnknown (r : Request) : Prop := r.operation ≠ 1 ∧ r.operation ≠ 5

/-- The data in front of the signature. -/
def payload (r : Request) : Bytes := r.data.take (r.data.length - r.signatureLength.toNat)

/-- The end of the data. -/
def signature (r : Request) : Bytes := r.data.drop (r.data.length - r.signatureLength.toNat)

theorem split?_of_not_misfits (h : ¬ r.Misfits) : r.split? = some (r.payload, r.signature) := by
  have hlen : r.signatureLength.toNat ≤ r.data.length := Nat.not_lt.mp (not_or.mp h).2
  rw [split?_eq_some_iff]
  refine ⟨(List.take_append_drop _ _).symm, ?_⟩
  rw [signature, List.length_drop]
  omega

theorem length_signature (h : ¬ r.Misfits) : r.signature.length = r.signatureLength.toNat :=
  (split?_eq_some_iff.mp (split?_of_not_misfits h)).2

theorem length_le_of_not_misfits (h : ¬ r.Misfits) : r.data.length ≤ maxCommandData :=
  Nat.not_lt.mp (not_or.mp h).1

theorem isUnknown_iff : r.IsUnknown ↔ Operation.ofCode? r.operation = none := by
  unfold IsUnknown Operation.ofCode?
  split
  · next h => simp [h]
  · next h => split <;> simp_all

/-- The reply to a change has the result of the change. -/
theorem commandResult_applyConfig (r : Request) (t : ParameterTable) (payload : Bytes) :
    (r.reply (t.applyConfig payload).1 []).commandResult = (t.applyConfig payload).1 := by
  refine r.commandResult_reply [] fun code hcode => ?_
  obtain h | h := t.applyConfig_fst payload <;> rw [h] at hcode <;> cases hcode

end Request

namespace Authority

section Scheme

variable [SignatureScheme] {a : Authority} {r : Request} {operation : Operation}

/-! ## What authorises a request -/

/-- What the signature of a request has to cover: the sequence number, the operation and the
payload, and for a change the session key that the node holds. -/
def covered (a : Authority) (r : Request) : Bytes :=
  Bytes.le32 r.sequence ++ Bytes.le32 r.operation ++ r.payload ++
    if r.operation = 5 then (a.sessionKey.map (·.bytes)).getD [] else []

/-- A request is not authorised if its signature has the wrong length, if it is a change and no
session key has been issued, or if no trusted key verifies it. -/
def Unauthorised (a : Authority) (r : Request) : Prop :=
  r.signatureLength ≠ 64 ∨ r.operation = 5 ∧ a.sessionKey = none ∨
    ∀ key ∈ a.keys, key.verify (a.covered r) r.signature ≠ true

omit [SignatureScheme] in
theorem length_signature_iff (h : ¬ r.Misfits) :
    r.signature.length = signatureLength ↔ r.signatureLength = 64 := by
  rw [Request.length_signature h, ← UInt32.toNat_inj]
  rfl

theorem not_unauthorised_iff : ¬ a.Unauthorised r ↔ r.signatureLength = 64 ∧
    (r.operation = 5 → a.sessionKey ≠ none) ∧
      ∃ key ∈ a.keys, key.verify (a.covered r) r.signature = true := by
  unfold Unauthorised
  simp only [not_or, not_and, ne_eq, not_not, not_forall, exists_prop]

/-- A request that fits and has a known operation passes the check of its signature if it is
authorised, and only then. -/
theorem permits_iff_not_unauthorised (hfits : ¬ r.Misfits) (hop : r.operation = operation.code) :
    a.permits r.sequence operation r.payload r.signature = true ↔ ¬ a.Unauthorised r := by
  rw [not_unauthorised_iff]
  cases operation with
  | getSessionKey =>
    have hcovered : a.covered r = Bytes.le32 r.sequence ++ Bytes.le32 1 ++ r.payload := by
      simp [covered, hop, Operation.code]
    have hne : r.operation ≠ 5 := by simp [hop, Operation.code]
    rw [permits_getSessionKey_iff, length_signature_iff hfits, hcovered]
    simp only [hne, false_implies, true_and]
  | setConfig =>
    rw [permits_setConfig_iff, length_signature_iff hfits]
    refine and_congr_right fun _ => ?_
    cases hkey : a.sessionKey with
    | none => simp [hop, Operation.code]
    | some sessionKey =>
      have hcovered : a.covered r = Bytes.le32 r.sequence ++ Bytes.le32 5 ++ r.payload ++
          sessionKey.bytes := by
        simp [covered, hop, hkey, Operation.code]
      simp [hcovered]

/-- What is admitted fits, and is authorised. -/
theorem Admits.not_unauthorised {payload signature : Bytes}
    (h : a.Admits r operation payload signature) : ¬ r.Misfits ∧ ¬ a.Unauthorised r := by
  obtain ⟨hdata, hlength⟩ := Request.split?_eq_some_iff.mp h.split?_eq
  have hfits : ¬ r.Misfits := by
    refine not_or.mpr ⟨Nat.not_lt.mpr h.length_le, ?_⟩
    rw [hdata, List.length_append]
    omega
  have hsplit := (Request.split?_of_not_misfits hfits).symm.trans h.split?_eq
  cases hsplit
  exact ⟨hfits, (permits_iff_not_unauthorised hfits h.operation_eq).mp h.permits⟩

/-! ## The five answers -/

/-- The answers to a request, in order of precedence. -/
inductive Decides (a : Authority) (r : Request) : Response × Authority → Prop where
  /-- The data do not fit. -/
  | misfit (h : r.Misfits) : Decides a r (r.reply .denied [], a)
  /-- The operation is not known. -/
  | unknown (hfits : ¬ r.Misfits) (h : r.IsUnknown) : Decides a r (r.reply .unsupported [], a)
  /-- The request is not authorised. -/
  | unauthorised (hfits : ¬ r.Misfits) (hknown : ¬ r.IsUnknown) (h : a.Unauthorised r) :
    Decides a r (r.reply .denied [], a)
  /-- The node issues a session key. -/
  | issues (hfits : ¬ r.Misfits) (hop : r.operation = 1) (h : ¬ a.Unauthorised r) :
    Decides a r (r.reply .accepted (a.source a.issued).bytes,
      { a with sessionKey := some (a.source a.issued), issued := a.issued + 1 })
  /-- The node applies a change. -/
  | applies (hfits : ¬ r.Misfits) (hop : r.operation = 5) (h : ¬ a.Unauthorised r) :
    Decides a r (r.reply (a.parameters.applyConfig r.payload).1 [],
      { a with parameters := (a.parameters.applyConfig r.payload).2 })

theorem admits_of_not_unauthorised (hfits : ¬ r.Misfits) (hop : r.operation = operation.code)
    (h : ¬ a.Unauthorised r) : a.Admits r operation r.payload r.signature :=
  ⟨Request.length_le_of_not_misfits hfits, Request.split?_of_not_misfits hfits, hop,
    (permits_iff_not_unauthorised hfits hop).mpr h⟩

theorem handle_of_misfits (h : r.Misfits) : a.handle r = (r.reply .denied [], a) := by
  unfold handle
  split
  · rfl
  · next hlen =>
    have hshort : r.data.length < r.signatureLength.toNat := h.resolve_left hlen
    rw [Request.split?, if_pos hshort]

theorem handle_of_isUnknown (hfits : ¬ r.Misfits) (h : r.IsUnknown) :
    a.handle r = (r.reply .unsupported [], a) := by
  unfold handle
  rw [if_neg (Nat.not_lt.mpr (Request.length_le_of_not_misfits hfits)),
    Request.split?_of_not_misfits hfits, Request.isUnknown_iff.mp h]

theorem handle_of_unauthorised (hfits : ¬ r.Misfits) (hknown : ¬ r.IsUnknown)
    (h : a.Unauthorised r) : a.handle r = (r.reply .denied [], a) := by
  rw [Request.isUnknown_iff, ← ne_eq, Option.ne_none_iff_exists'] at hknown
  obtain ⟨operation, hop⟩ := hknown
  have hpermits : ¬ a.permits r.sequence operation r.payload r.signature = true := fun hp =>
    (permits_iff_not_unauthorised hfits (Operation.ofCode?_eq_some_iff.mp hop)).mp hp h
  unfold handle
  rw [if_neg (Nat.not_lt.mpr (Request.length_le_of_not_misfits hfits)),
    Request.split?_of_not_misfits hfits]
  dsimp only
  rw [hop]
  exact if_neg hpermits

theorem decides_handle (a : Authority) (r : Request) : a.Decides r (a.handle r) := by
  by_cases hfits : r.Misfits
  · rw [handle_of_misfits hfits]
    exact .misfit hfits
  by_cases hknown : r.IsUnknown
  · rw [handle_of_isUnknown hfits hknown]
    exact .unknown hfits hknown
  by_cases h : a.Unauthorised r
  · rw [handle_of_unauthorised hfits hknown h]
    exact .unauthorised hfits hknown h
  by_cases hop : r.operation = 1
  · have hadmits : a.Admits r .getSessionKey r.payload r.signature :=
      admits_of_not_unauthorised hfits hop h
    rw [hadmits.handle_eq]
    exact .issues hfits hop h
  · have hop : r.operation = 5 := by
      apply Decidable.byContradiction
      exact fun hne => hknown ⟨hop, hne⟩
    have hadmits : a.Admits r .setConfig r.payload r.signature :=
      admits_of_not_unauthorised hfits hop h
    rw [hadmits.handle_eq]
    exact .applies hfits hop h

/-- The answer to a request. It echoes the sequence number and the operation. A request whose data
do not fit is denied, whatever else is wrong with it; any other of an unknown operation is
unsupported; any other that is not authorised is denied; and these leave the node as it is. All that
remain are carried out: a request for a session key is accepted, and the key that it carries is the
one that the node then holds, and nothing else of the node changes but the count of the keys; a
change has the result of applying its payload, and nothing of the node changes but the parameters.
No other reply carries any data. -/
theorem handle_by_precedence (a : Authority) (r : Request) :
    let reply := (a.handle r).1
    let next := (a.handle r).2
    (reply.sequence = r.sequence ∧ reply.operation = r.operation) ∧
    (r.Misfits → reply.commandResult = .denied ∧ next = a) ∧
    (¬ r.Misfits → r.IsUnknown → reply.commandResult = .unsupported ∧ next = a) ∧
    (¬ r.Misfits → r.operation = 1 ∨ r.operation = 5 → a.Unauthorised r →
      reply.commandResult = .denied ∧ next = a) ∧
    (¬ r.Misfits → r.operation = 1 → ¬ a.Unauthorised r → reply.commandResult = .accepted ∧
      ∃ key : Block sessionKeyLength, reply.data = key.bytes ∧ reply.data.length = 8 ∧
        next = { a with sessionKey := some key, issued := a.issued + 1 }) ∧
    (¬ r.Misfits → r.operation = 5 → ¬ a.Unauthorised r →
      reply.commandResult = (a.parameters.applyConfig r.payload).1 ∧
        next = { a with parameters := (a.parameters.applyConfig r.payload).2 }) ∧
    (reply.data ≠ [] ↔ r.operation = 1 ∧ reply.commandResult = .accepted) := by
  intro reply next
  have hknown : r.operation = 1 ∨ r.operation = 5 → ¬ r.IsUnknown := fun hop h =>
    hop.elim h.1 h.2
  have hdecides : a.Decides r (reply, next) := a.decides_handle r
  refine ⟨⟨sequence_handle a r, operation_handle a r⟩, ?_⟩
  clear_value reply next
  cases hdecides with
  | misfit h =>
    refine ⟨fun _ => ⟨rfl, rfl⟩, fun hfits => absurd h hfits, fun hfits => absurd h hfits,
      fun hfits => absurd h hfits, fun hfits => absurd h hfits, ?_⟩
    exact iff_of_false (fun h => h rfl) fun h => by cases h.2
  | unknown hfits h =>
    refine ⟨fun hmisfit => absurd hmisfit hfits, fun _ _ => ⟨rfl, rfl⟩, fun _ hop =>
      absurd h (hknown hop), fun _ hop => absurd hop h.1, fun _ hop => absurd hop h.2, ?_⟩
    exact iff_of_false (fun h => h rfl) fun h => by cases h.2
  | unauthorised hfits hknown' h =>
    refine ⟨fun hmisfit => absurd hmisfit hfits, fun _ hunknown => absurd hunknown hknown',
      fun _ _ _ => ⟨rfl, rfl⟩, fun _ _ hno => absurd h hno, fun _ _ hno => absurd h hno, ?_⟩
    exact iff_of_false (fun h => h rfl) fun h => by cases h.2
  | issues hfits hop h =>
    have hlength : (a.source a.issued).bytes.length = 8 := (a.source a.issued).length_eq
    refine ⟨fun hmisfit => absurd hmisfit hfits,
      fun _ hunknown => absurd hunknown (hknown (.inl hop)),
      fun _ _ hno => absurd hno h, fun _ _ _ => ⟨rfl, _, rfl, hlength, rfl⟩, fun _ hop' => ?_, ?_⟩
    · rw [hop] at hop'
      cases hop'
    · exact iff_of_true (List.ne_nil_of_length_pos (by rw [Request.reply, hlength]; decide))
        ⟨hop, rfl⟩
  | applies hfits hop h =>
    refine ⟨fun hmisfit => absurd hmisfit hfits,
      fun _ hunknown => absurd hunknown (hknown (.inr hop)),
      fun _ _ hno => absurd hno h, fun _ hop' => ?_, fun _ _ _ =>
        ⟨r.commandResult_applyConfig _ _, rfl⟩, ?_⟩
    · rw [hop] at hop'
      cases hop'
    · refine iff_of_false (fun h => h rfl) fun h => ?_
      rw [hop] at h
      cases h.1

end Scheme

theorem handle_by_precedence_lockedNode :
    (lockedNode.handle ⟨4, 9, 64, List.replicate 221 0⟩).1.commandResult = .denied ∧
      (lockedNode.handle ⟨4, 9, 0, []⟩).1.commandResult = .unsupported ∧
      (lockedNode.handle lockRequest).1.commandResult = .denied ∧
      ∃ key : Block sessionKeyLength, (lockedNode.handle keyRequest).1.data = key.bytes ∧
        (lockedNode.handle keyRequest).2.sessionKey = some key := by
  obtain ⟨-, hmisfit, -⟩ := lockedNode.handle_by_precedence ⟨4, 9, 64, List.replicate 221 0⟩
  obtain ⟨-, -, hunknown, -⟩ := lockedNode.handle_by_precedence ⟨4, 9, 0, []⟩
  obtain ⟨-, -, -, hunauthorised, -⟩ := lockedNode.handle_by_precedence lockRequest
  obtain ⟨-, -, -, -, hissues, -⟩ := lockedNode.handle_by_precedence keyRequest
  refine ⟨(hmisfit ?_).1, ?_, ?_, ?_⟩
  · left
    dsimp only
    rw [List.length_replicate]
    decide
  · exact (hunknown (not_or.mpr ⟨by decide, by decide⟩) ⟨by decide, by decide⟩).1
  · have hfits : ¬ lockRequest.Misfits := not_or.mpr ⟨by decide, by decide⟩
    exact (hunauthorised hfits (.inr rfl) (.inr (.inl ⟨rfl, rfl⟩))).1
  · have hadmits := admits_keyRequest (a := lockedNode) (List.mem_singleton.mpr rfl)
    obtain ⟨hfits, hauthorised⟩ := hadmits.not_unauthorised
    obtain ⟨-, key, hdata, -, hnext⟩ := hissues hfits rfl hauthorised
    exact ⟨key, hdata, by rw [hnext]⟩

end Authority

end SignedControl
