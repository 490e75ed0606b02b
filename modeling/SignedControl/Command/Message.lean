import SignedControl.Command.Operation
import SignedControl.Signature

/-!
# Requests, responses and frames

A request carries its payload and its signature in one field, `data`; `signatureLength` says how
many bytes at the end are the signature. A frame adds the node it comes from and the node it is
for.
-/

namespace SignedControl

/-- The longest `data` of a request that a node accepts. -/
def maxCommandData : Nat := 220

/-- A request as it travels. -/
structure Request where
  /-- The sequence number. -/
  sequence : UInt32
  /-- The operation's code. -/
  operation : UInt32
  /-- How many bytes at the end of `data` are the signature. -/
  signatureLength : UInt32
  /-- The payload, followed by the signature. -/
  data : Bytes
deriving DecidableEq

/-- The payload and the signature of a request, if `data` is long enough to hold the signature. -/
def Request.split? (r : Request) : Option (Bytes × Bytes) :=
  if r.data.length < r.signatureLength.toNat then none
  else some (r.data.splitAt (r.data.length - r.signatureLength.toNat))

theorem Request.split?_eq_some_iff {r : Request} {payload signature : Bytes} :
    r.split? = some (payload, signature) ↔
      r.data = payload ++ signature ∧ signature.length = r.signatureLength.toNat := by
  unfold Request.split?
  split
  · next h =>
    simp only [reduceCtorEq, false_iff, not_and]
    intro hd hs
    rw [hd, List.length_append] at h
    omega
  · next h =>
    simp only [List.splitAt_eq, Option.some.injEq, Prod.mk.injEq]
    constructor
    · rintro ⟨rfl, rfl⟩
      refine ⟨(List.take_append_drop _ _).symm, ?_⟩
      rw [List.length_drop]; omega
    · rintro ⟨hd, hs⟩
      have hlen : r.data.length - r.signatureLength.toNat = payload.length := by
        rw [hd, List.length_append]; omega
      rw [hlen, hd]
      simp

/-- A reply as it travels. -/
structure Response where
  /-- The sequence number of the request that is answered. -/
  sequence : UInt32
  /-- The operation's code. -/
  operation : UInt32
  /-- The result's code. -/
  result : UInt32
  /-- What the node gives back. -/
  data : Bytes
deriving DecidableEq

/-- The result of a reply. -/
def Response.commandResult (r : Response) : CommandResult := .ofCode r.result

/-- The reply to a request, with its sequence number and operation. -/
def Request.reply (r : Request) (result : CommandResult) (data : Bytes) : Response :=
  ⟨r.sequence, r.operation, result.code, data⟩

/-- A command with its signature, before it is put into a request. -/
structure SignedRequest where
  /-- The sequence number. -/
  sequence : UInt32
  /-- What is asked. -/
  operation : Operation
  /-- The argument of the operation. -/
  payload : Bytes
  /-- The signature. -/
  signature : Signature
deriving DecidableEq

/-- The request that carries a signed command. -/
def SignedRequest.toRequest (s : SignedRequest) : Request where
  sequence := s.sequence
  operation := s.operation.code
  signatureLength := UInt32.ofNat s.signature.bytes.length
  data := s.payload ++ s.signature.bytes

/-- A signed command is split into exactly its payload and its signature. -/
theorem SignedRequest.split?_toRequest (s : SignedRequest) :
    s.toRequest.split? = some (s.payload, s.signature.bytes) := by
  rw [Request.split?_eq_some_iff]
  have h : s.signature.bytes.length = 64 := s.signature.length_eq
  refine ⟨rfl, ?_⟩
  simp [SignedRequest.toRequest, h]

/-- What a frame carries. -/
inductive FrameBody where
  /-- A request. -/
  | request (r : Request)
  /-- A reply. -/
  | response (r : Response)
deriving DecidableEq

/-- The addressed unit of transfer. -/
structure Frame where
  /-- The node that sends. -/
  source : UInt32
  /-- The node that is addressed. -/
  target : UInt32
  /-- What is carried, if anything. -/
  body : Option FrameBody
deriving DecidableEq

namespace Frame

/-- A frame that carries a request. -/
def ofRequest (source target : UInt32) (r : Request) : Frame := ⟨source, target, some (.request r)⟩

/-- A frame that carries a reply. -/
def ofResponse (source target : UInt32) (r : Response) : Frame :=
  ⟨source, target, some (.response r)⟩

end Frame

end SignedControl
