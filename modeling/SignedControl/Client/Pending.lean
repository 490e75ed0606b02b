import SignedControl.Time

/-!
# Requests in flight

A request waits for its reply until its time-out has passed. A reply is taken as the answer to the
earliest request with its sequence number that is still waiting.

* `takeLive?_eq`: which request is taken, and what is left.
* `expire_eq`: what is left when the time-outs have been seen to.
-/

namespace SignedControl

/-- Why a request got no reply. -/
inductive TransportError where
  /-- The reply did not come in time. -/
  | timeout (sequence : UInt32) (limit : Duration)
  /-- Requests cannot be sent any more. -/
  | closed (reason : String)
deriving DecidableEq, Repr

/-- The wording of a transport error. -/
def TransportError.message : TransportError → String
  | .timeout sequence limit =>
    "No reply to sequence " ++ toString sequence.toNat ++ " within " ++ limit.shown
  | .closed reason => "Transport closed: " ++ reason

/-- A request that waits for its reply. -/
structure PendingRequest where
  /-- The request's sequence number. -/
  sequence : UInt32
  /-- When it was sent. -/
  sentAt : Instant
  /-- How long its reply is waited for. -/
  timeout : Duration
deriving DecidableEq, Repr

namespace PendingRequest

/-- Whether the reply is still waited for. -/
def isLive (p : PendingRequest) (now : Instant) : Bool := now.since p.sentAt < p.timeout

/-- The error that stands for the missing reply. -/
def error (p : PendingRequest) : TransportError := .timeout p.sequence p.timeout

/-- The error, once the reply is no longer waited for. -/
def check (p : PendingRequest) (now : Instant) : Except TransportError Unit :=
  if p.isLive now then .ok () else .error p.error

end PendingRequest

/-- The requests in flight for one operation, oldest first. -/
structure PendingSet where
  /-- The requests. -/
  requests : List PendingRequest
deriving DecidableEq

namespace PendingSet

/-- No requests. -/
def empty : PendingSet := ⟨[]⟩

/-- The requests with one more. -/
def push (s : PendingSet) (p : PendingRequest) : PendingSet := ⟨s.requests ++ [p]⟩

/-- The request that a reply answers, if one is still waiting, and the others. -/
def takeLive? (s : PendingSet) (sequence : UInt32) (now : Instant) :
    Option PendingRequest × PendingSet :=
  let answered (p : PendingRequest) : Bool := p.sequence == sequence && p.isLive now
  (s.requests.find? answered, ⟨s.requests.eraseP answered⟩)

/-- The errors of the requests that are no longer waited for, and the other requests. -/
def expire (s : PendingSet) (now : Instant) : List TransportError × PendingSet :=
  ((s.requests.filter fun p => !p.isLive now).map PendingRequest.error,
    ⟨s.requests.filter fun p => p.isLive now⟩)

theorem takeLive?_eq {s : PendingSet} {sequence : UInt32} {now : Instant} {p : PendingRequest}
    (h : (s.takeLive? sequence now).1 = some p) :
    p.sequence = sequence ∧ p.isLive now = true ∧
      ∃ before after, s.requests = before ++ p :: after ∧
        (s.takeLive? sequence now).2.requests = before ++ after ∧
        ∀ q ∈ before, q.sequence = sequence → q.isLive now = false := by
  simp only [takeLive?, List.find?_eq_some_iff_append, Bool.and_eq_true, beq_iff_eq,
    Bool.not_eq_true', Bool.and_eq_false_imp] at h ⊢
  obtain ⟨⟨hs, hl⟩, before, after, hsplit, hbefore⟩ := h
  refine ⟨hs, hl, before, after, hsplit, ?_, hbefore⟩
  rw [hsplit, List.eraseP_append_right, List.eraseP_cons_of_pos]
  · simp [hs, hl]
  · intro q hq
    simpa using hbefore q hq

theorem expire_eq (s : PendingSet) (now : Instant) :
    (s.expire now).2.requests = s.requests.filter (·.isLive now) := rfl

end PendingSet

end SignedControl
