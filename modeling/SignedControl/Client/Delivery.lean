import SignedControl.Client.Handshake
import SignedControl.Text.Utf8

/-!
# Delivering a configuration change

Once there is a session key, the change is sent until the node answers, one request at a time. The
first reply to the request in flight ends the delivery, whatever its result.
-/

namespace SignedControl

/-- The longest configuration change that fits into a request beside its signature. -/
def maxConfigPayload : Nat := maxCommandData - signatureLength

/-- A configuration change that fits into a request. -/
structure ConfigPayload where
  /-- The bytes. -/
  bytes : Bytes
  /-- There are not too many. -/
  length_le : bytes.length ≤ maxConfigPayload
deriving DecidableEq

/-- The configuration change that a text spells. -/
def ConfigPayload.ofString (text : String) : Except ClientError ConfigPayload :=
  let bytes := Bytes.ofString text
  if h : bytes.length ≤ maxConfigPayload then .ok ⟨bytes, h⟩
  else .error (.payloadTooLarge bytes.length maxConfigPayload)

/-- The delivery of one configuration change. -/
structure Delivery where
  /-- The change. -/
  payload : ConfigPayload
  /-- How long a reply is waited for. -/
  timeout : Duration
  /-- The least time between two requests. -/
  retryInterval : Duration
  /-- When the last request was sent. -/
  lastAttempt : Option Instant
  /-- The requests in flight. -/
  pending : PendingSet
  /-- How many requests have been sent. -/
  attempts : UInt32
  /-- The node's answer. -/
  outcome : Option CommandResult
deriving DecidableEq

namespace Delivery

/-- A delivery that has not begun. -/
def new (payload : ConfigPayload) (timeout retryInterval : Duration) : Delivery where
  payload := payload
  timeout := timeout
  retryInterval := retryInterval
  lastAttempt := none
  pending := .empty
  attempts := 0
  outcome := none

/-- Whether a request is due. -/
def isDue (d : Delivery) (now : Instant) : Bool :=
  if d.outcome.isSome || !d.pending.requests.isEmpty then false
  else
    match d.lastAttempt with
    | none => true
    | some last => d.retryInterval ≤ now.since last

/-- The delivery after a request has been sent. -/
def sent (d : Delivery) (now : Instant) (sequence : UInt32) : Delivery :=
  { d with
    lastAttempt := some now
    attempts := d.attempts + 1
    pending := d.pending.push ⟨sequence, now, d.timeout⟩ }

/-- Sends the change if a request is due. -/
def tick [SignatureScheme] (d : Delivery) (now : Instant) (sessionKey : SessionKey)
    (key : PrivateKey) (counter : SequenceCounter) (target : UInt32)
    (outcome : Except TransportError Unit) : Attempt Delivery :=
  if d.isDue now then
    .send d counter target outcome
      (fun sequence => key.signRequest sequence .setConfig d.payload.bytes (some sessionKey.bytes))
      (d.sent now)
  else ⟨d, counter, none, .ok none⟩

/-- Takes a reply, and gives the result if it ended the delivery. -/
def receive (d : Delivery) (now : Instant) (r : Response) : Option CommandResult × Delivery :=
  if d.outcome.isSome then (none, d)
  else
    match d.pending.takeLive? r.sequence now with
    | (none, _) => (none, d)
    | (some _, _) =>
      (some r.commandResult, { d with pending := .empty, outcome := some r.commandResult })

/-- Forgets the requests that are no longer waited for. -/
def expire (d : Delivery) (now : Instant) : Delivery :=
  { d with pending := (d.pending.expire now).2 }

end Delivery

end SignedControl
