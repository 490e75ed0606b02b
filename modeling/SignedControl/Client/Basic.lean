import SignedControl.Client.Delivery

/-!
# The command client

The client carries one configuration change to one node: the handshake first, the delivery after
it. It is driven by ticks. A tick takes the replies that have arrived, forgets the requests whose
time is up, and sends at most one request. Lost replies are made up for by sending again, so that a
tick fails only if its request cannot be sent.
-/

namespace SignedControl

/-- The time between two ticks of the command-line tool. -/
def tickInterval : Duration := Duration.ofMilliseconds 100

/-- The settings of a client. -/
structure ClientConfig where
  /-- The node that is addressed. -/
  target : UInt32 := 0
  /-- How long a reply is waited for. -/
  timeout : Duration := defaultTimeout
  /-- The least time between two attempts. -/
  retryInterval : Duration := defaultRetryInterval
deriving DecidableEq

/-- A client. -/
structure Client where
  /-- The node that is addressed. -/
  target : UInt32
  /-- The key that commands are signed with. -/
  key : PrivateKey
  /-- The source of sequence numbers. -/
  counter : SequenceCounter
  /-- The handshake for the session key. -/
  handshake : Handshake
  /-- The delivery of the change. -/
  delivery : Delivery
deriving DecidableEq

/-- What a tick gives. -/
structure Tick where
  /-- The client afterwards. -/
  client : Client
  /-- The replies that were not looked at. -/
  unread : List Response
  /-- The request that was handed to the transport, whether it took it or not. -/
  offered : Option Outgoing
  /-- The node's answer to the change, once it has come. -/
  result : Except ClientError (Option CommandResult)

namespace Client

/-- A client for a configuration change, whose first request carries the sequence number
`start`. -/
def new (config : ClientConfig) (key : PrivateKey) (change : String) (start : UInt32) :
    Except ClientError Client :=
  (ConfigPayload.ofString change).map fun payload => {
    target := config.target
    key := key
    counter := ⟨start⟩
    handshake := .new config.timeout config.retryInterval
    delivery := .new payload config.timeout config.retryInterval }

/-- Takes replies one after another, up to one that ends the delivery. -/
def receive (c : Client) (now : Instant) : List Response →
    Client × List Response × Option CommandResult
  | [] => (c, [], none)
  | r :: rest =>
    match Operation.ofCode? r.operation with
    | some .getSessionKey => receive { c with handshake := (c.handshake.receive now r).2 } now rest
    | some .setConfig =>
      match c.delivery.receive now r with
      | (some result, delivery) => ({ c with delivery := delivery }, rest, some result)
      | (none, delivery) => receive { c with delivery := delivery } now rest
    | none => receive c now rest

/-- Forgets the requests that are no longer waited for. -/
def expire (c : Client) (now : Instant) : Client :=
  { c with handshake := c.handshake.expire now, delivery := c.delivery.expire now }

variable [SignatureScheme]

/-- Sends the request that is due, if one is. -/
def send (c : Client) (now : Instant) (outcome : Except TransportError Unit) : Attempt Client :=
  match c.handshake.sessionKey with
  | none =>
    let attempt := c.handshake.tick now c.key c.counter c.target outcome
    { attempt with state := { c with handshake := attempt.state, counter := attempt.counter } }
  | some sessionKey =>
    let attempt := c.delivery.tick now sessionKey c.key c.counter c.target outcome
    { attempt with state := { c with delivery := attempt.state, counter := attempt.counter } }

/-- One tick. `arrived` are the replies that can be taken, and `outcome` is what the transport
answers if a request is handed to it. -/
def tick (c : Client) (now : Instant) (arrived : List Response)
    (outcome : Except TransportError Unit) : Tick :=
  match c.delivery.outcome with
  | some result => ⟨c, arrived, none, .ok (some result)⟩
  | none =>
    match c.receive now arrived with
    | (c, unread, some result) => ⟨c, unread, none, .ok (some result)⟩
    | (c, unread, none) =>
      let attempt := (c.expire now).send now outcome
      ⟨attempt.state, unread, attempt.offered, attempt.result.map fun _ => none⟩

end Client

end SignedControl
