import SignedControl.Client.Pending
import SignedControl.Command.Signing
import SignedControl.Sequence

/-!
# Asking for a session key

The handshake sends requests for a session key, one every retry interval, until a reply to one of
them brings a key. Then it is finished: the key stays, and nothing more is sent or waited for.
-/

namespace SignedControl

/-- The time between two attempts of the same command, unless told otherwise. -/
def defaultRetryInterval : Duration := Duration.ofMilliseconds 2000

/-- How long a reply is waited for, unless told otherwise. -/
def defaultTimeout : Duration := Duration.ofMilliseconds 3000

/-- The key that a node has issued. Its bytes mean nothing to the client, but there are some. -/
structure SessionKey where
  /-- The bytes. -/
  bytes : Bytes
  /-- There is at least one. -/
  ne_nil : bytes ≠ []
deriving DecidableEq

namespace SessionKey

/-- The session key with these bytes, if there are any. -/
def ofBytes? (b : Bytes) : Option SessionKey := if h : b ≠ [] then some ⟨b, h⟩ else none

/-- How a session key is shown: by its length only. -/
def shown (k : SessionKey) : String := "SessionKey(" ++ toString k.bytes.length ++ " bytes)"

theorem ofBytes?_eq_some_iff {b : Bytes} {k : SessionKey} : ofBytes? b = some k ↔ b = k.bytes := by
  unfold ofBytes?
  constructor
  · intro h
    split at h
    · cases h; rfl
    · cases h
  · rintro rfl
    rw [dif_pos k.ne_nil]

end SessionKey

/-- Why the client could not go on. -/
inductive ClientError where
  /-- A command could not be signed. -/
  | sign (cause : SignError)
  /-- A request could not be sent. -/
  | transport (cause : TransportError)
  /-- The configuration change does not fit into a request. -/
  | payloadTooLarge (length max : Nat)
deriving DecidableEq, Repr

/-- The wording of a client error. -/
def ClientError.message : ClientError → String
  | .sign cause => cause.message
  | .transport cause => cause.message
  | .payloadTooLarge length max =>
    "Config payload too large: " ++ toString length ++ " bytes (max: " ++ toString max ++ ")"

/-- A request on its way to the transport. -/
structure Outgoing where
  /-- The node that is addressed. -/
  target : UInt32
  /-- The request. -/
  request : SignedRequest
deriving DecidableEq

/-- What a step that may send a request gives. -/
structure Attempt (σ : Type) where
  /-- The state afterwards. -/
  state : σ
  /-- The counter afterwards. -/
  counter : SequenceCounter
  /-- The request that was handed to the transport, whether it took it or not. -/
  offered : Option Outgoing
  /-- The sequence number of a request that was sent. -/
  result : Except ClientError (Option UInt32)

/-- How a step sends a request: it takes the next sequence number, signs, and hands the request to
the transport, whose answer is `outcome`. Only if the transport takes the request does the state
change. -/
def Attempt.send {σ : Type} (state : σ) (counter : SequenceCounter) (target : UInt32)
    (outcome : Except TransportError Unit)
    (signed : UInt32 → Except SignError SignedRequest) (after : UInt32 → σ) : Attempt σ :=
  match signed counter.next with
  | .error e => ⟨state, counter.advance, none, .error (.sign e)⟩
  | .ok request =>
    match outcome with
    | .error e => ⟨state, counter.advance, some ⟨target, request⟩, .error (.transport e)⟩
    | .ok () =>
      ⟨after counter.next, counter.advance, some ⟨target, request⟩, .ok (some counter.next)⟩

/-- How far the handshake has come, in a word. -/
inductive HandshakeState where
  /-- Nothing has been sent. -/
  | init
  /-- A request has been sent, and no key has come. -/
  | awaitingKey
  /-- There is a key. -/
  | haveKey
deriving DecidableEq, Repr

/-- How far the handshake has come. -/
inductive HandshakeProgress where
  /-- Nothing has been sent. -/
  | init
  /-- A request has been sent, the last one at `lastAttempt`, and no key has come. -/
  | awaitingKey (lastAttempt : Instant) (pending : PendingSet)
  /-- There is a key. -/
  | haveKey (key : SessionKey)
deriving DecidableEq

/-- The client's side of the handshake. -/
structure Handshake where
  /-- How long a reply is waited for. -/
  timeout : Duration
  /-- The least time between two requests. -/
  retryInterval : Duration
  /-- How far it has come. -/
  progress : HandshakeProgress
deriving DecidableEq

namespace Handshake

/-- A handshake that has not begun. -/
def new (timeout : Duration) (retryInterval : Duration) : Handshake :=
  ⟨timeout, retryInterval, .init⟩

/-- How far the handshake has come, in a word. -/
def state (h : Handshake) : HandshakeState :=
  match h.progress with
  | .init => .init
  | .awaitingKey .. => .awaitingKey
  | .haveKey _ => .haveKey

/-- The key, once there is one. -/
def sessionKey (h : Handshake) : Option SessionKey :=
  match h.progress with
  | .haveKey key => some key
  | _ => none

/-- The requests in flight. -/
def pending (h : Handshake) : PendingSet :=
  match h.progress with
  | .awaitingKey _ pending => pending
  | _ => .empty

/-- Whether a request is due. -/
def isDue (h : Handshake) (now : Instant) : Bool :=
  match h.progress with
  | .init => true
  | .awaitingKey lastAttempt _ => h.retryInterval ≤ now.since lastAttempt
  | .haveKey _ => false

variable [SignatureScheme]

/-- Sends a request if one is due. -/
def tick (h : Handshake) (now : Instant) (key : PrivateKey) (counter : SequenceCounter)
    (target : UInt32) (outcome : Except TransportError Unit) : Attempt Handshake :=
  if h.isDue now then
    .send h counter target outcome
      (fun sequence => key.signRequest sequence .getSessionKey [] none)
      (fun sequence =>
        { h with progress := .awaitingKey now (h.pending.push ⟨sequence, now, h.timeout⟩) })
  else ⟨h, counter, none, .ok none⟩

omit [SignatureScheme] in
/-- Takes a reply, and says whether it brought the key. A reply to a waiting request is its answer
even if it brings no key. -/
def receive (h : Handshake) (now : Instant) (r : Response) : Bool × Handshake :=
  match h.progress with
  | .awaitingKey lastAttempt pending =>
    match pending.takeLive? r.sequence now with
    | (none, _) => (false, h)
    | (some _, rest) =>
      match SessionKey.ofBytes? r.data with
      | some key => (true, { h with progress := .haveKey key })
      | none => (false, { h with progress := .awaitingKey lastAttempt rest })
  | _ => (false, h)

omit [SignatureScheme] in
/-- Forgets the requests that are no longer waited for. -/
def expire (h : Handshake) (now : Instant) : Handshake :=
  match h.progress with
  | .awaitingKey lastAttempt pending =>
    { h with progress := .awaitingKey lastAttempt (pending.expire now).2 }
  | _ => h

end Handshake

end SignedControl
