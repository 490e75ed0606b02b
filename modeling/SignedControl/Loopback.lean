import SignedControl.Client.Basic
import SignedControl.Node.Connection

/-!
# A client and a node face to face

A loopback joins a client to a node within one program: requests and replies travel as frames, at
once and in order. It can lose requests and replies by their number, hold every reply back for some
time, and let replies arrive twice, so that a whole run under such conditions is a function of its
beginning.
-/

namespace SignedControl

/-- What a loopback does to the messages that it carries. -/
structure Conditions where
  /-- Whether the request with a number, counted from zero, never reaches the node. -/
  losesRequest : Nat → Bool := fun _ => false
  /-- Whether the reply to the request with a number never reaches the client. -/
  losesReply : Nat → Bool := fun _ => false
  /-- How long after its request a reply arrives. -/
  delay : Duration := 0
  /-- Whether every reply arrives twice. -/
  repeatsReplies : Bool := false

/-- What became of a request. -/
inductive Fate where
  /-- It never reached the node. -/
  | lost
  /-- The node passed over it. -/
  | ignored
  /-- The node answered. -/
  | answered (reply : Response)
deriving DecidableEq

/-- A client joined to a node. -/
structure Loopback where
  /-- What happens to messages. -/
  conditions : Conditions
  /-- The client's node number. -/
  clientNode : UInt32
  /-- The node's number. -/
  serverNode : UInt32
  /-- The client. -/
  client : Client
  /-- The node. -/
  authority : Authority
  /-- The clock that the client reads. -/
  clock : ManualClock
  /-- How many requests have been sent. -/
  sent : Nat
  /-- The replies on their way, with the times of their arrival, oldest first. -/
  underway : List (Instant × Response)

/-- What a tick of the client did. -/
structure TickReport where
  /-- The request that was sent, and what became of it. -/
  sent : Option (Outgoing × Fate)
  /-- How far the handshake has come. -/
  state : HandshakeState
  /-- What the tick gave. -/
  result : Except ClientError (Option CommandResult)

variable [SignatureScheme]

/-- A node's reply to a frame, where both are carried as bytes. -/
def Authority.exchange (nodeId : UInt32) (a : Authority) (f : Frame) :
    Option Response × Authority :=
  match Wire.encode f with
  | .error _ => (none, a)
  | .ok bytes =>
    let (written, _, a) := Node.Connection.new.receive nodeId a bytes
    match (Wire.decode written).1 with
    | .ok (some ⟨_, _, some (.response r)⟩) => (some r, a)
    | _ => (none, a)

namespace Loopback

omit [SignatureScheme] in
/-- A client and a node that have not spoken yet. -/
def new (conditions : Conditions) (clientNode serverNode : UInt32) (client : Client)
    (authority : Authority) : Loopback where
  conditions := conditions
  clientNode := clientNode
  serverNode := serverNode
  client := client
  authority := authority
  clock := .start
  sent := 0
  underway := []

/-- Carries a request to the node, and sends the reply on its way. -/
def carry (l : Loopback) (o : Outgoing) : Fate × Loopback :=
  let number := l.sent
  let l := { l with sent := number + 1 }
  if l.conditions.losesRequest number then (.lost, l)
  else
    let frame := Frame.ofRequest l.clientNode o.target o.request.toRequest
    match l.authority.exchange l.serverNode frame with
    | (none, authority) => (.ignored, { l with authority := authority })
    | (some r, authority) =>
      let copies :=
        if l.conditions.losesReply number then 0 else if l.conditions.repeatsReplies then 2 else 1
      let arrival := l.clock.now + l.conditions.delay
      (.answered r,
        { l with
          authority := authority
          underway := l.underway ++ List.replicate copies (arrival, r) })

/-- Lets the client tick. Replies arrive in their order, so that a late one holds up those behind
it. -/
def tick (l : Loopback) : TickReport × Loopback :=
  let now := l.clock.now
  let hasArrived (e : Instant × Response) : Bool := e.1 ≤ now
  let arrived := l.underway.takeWhile hasArrived
  let tick := l.client.tick now (arrived.map (·.2)) (.ok ())
  let read := arrived.length - tick.unread.length
  let l := { l with client := tick.client, underway := l.underway.drop read }
  match tick.offered with
  | none => (⟨none, tick.client.handshake.state, tick.result⟩, l)
  | some o =>
    let (fate, l) := l.carry o
    (⟨some (o, fate), tick.client.handshake.state, tick.result⟩, l)

/-- Lets the client tick at an interval, up to a number of times, until it ends. -/
def run (interval : Duration) (l : Loopback) : (ticks : Nat) → List TickReport × Loopback
  | 0 => ([], l)
  | ticks + 1 =>
    let (report, l) := l.tick
    match report.result with
    | .ok none =>
      let (reports, l) := run interval { l with clock := l.clock.advance interval } ticks
      (report :: reports, l)
    | _ => ([report], l)

end Loopback

end SignedControl
