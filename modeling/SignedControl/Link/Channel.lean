import SignedControl.Client.Pending
import SignedControl.Command.Message
import SignedControl.Link.Queue

/-!
# The client's end of a link

The client never waits: it puts requests into one queue and takes replies from another, and the
link's task works at the other ends. A request that finds its queue full is lost, as it might be on
the way; the client will send again. Once the client has learnt that the task is gone, it refuses
to send.
-/

namespace SignedControl

/-- The client's end of a link. -/
structure Channel where
  /-- The client's own node number. -/
  localNode : UInt32
  /-- The requests on their way to the task. -/
  outbound : Queue Frame
  /-- The replies on their way to the client. -/
  inbound : Queue Response
  /-- Whether the client has learnt that the task is gone. -/
  isClosed : Bool
deriving DecidableEq

namespace Channel

/-- A channel with empty queues. -/
def new (localNode : UInt32) (outboundDepth inboundDepth : Nat) : Channel :=
  ⟨localNode, .empty outboundDepth, .empty inboundDepth, false⟩

/-- Hands a request to the task. -/
def send (c : Channel) (request : SignedRequest) (target : UInt32) :
    Except TransportError Unit × Channel :=
  if c.isClosed then (.error (.closed "link task ended"), c)
  else
    match c.outbound.put (.ofRequest c.localNode target request.toRequest) with
    | .ok outbound => (.ok (), { c with outbound := outbound })
    | .error .full => (.ok (), c)
    | .error .abandoned =>
      (.error (.closed "link writer closed"), { c with isClosed := true })

/-- Takes a reply, if one is there. -/
def poll (c : Channel) : Option Response × Channel :=
  match c.inbound.take with
  | (some r, inbound) => (some r, { c with inbound := inbound })
  | (none, _) => (none, { c with isClosed := c.isClosed || c.inbound.isFinished })

/-- Takes replies a number of times. -/
def polls (c : Channel) : (times : Nat) → List (Option Response) × Channel
  | 0 => ([], c)
  | times + 1 =>
    let (r, c) := c.poll
    let (rest, c) := c.polls times
    (r :: rest, c)

/-- Takes the next request, at the task's end. -/
def takeRequest (c : Channel) : Option Frame × Channel :=
  let (f, outbound) := c.outbound.take
  (f, { c with outbound := outbound })

/-- Puts in a reply, at the task's end. -/
def putReply (c : Channel) (r : Response) : Except QueueError Channel :=
  (c.inbound.put r).map fun inbound => { c with inbound := inbound }

/-- The channel after the client has left. -/
def dropClient (c : Channel) : Channel :=
  { c with outbound := c.outbound.dropWriter, inbound := c.inbound.dropReader }

/-- The channel after the task has left. -/
def dropTask (c : Channel) : Channel :=
  { c with outbound := c.outbound.dropReader, inbound := c.inbound.dropWriter }

theorem takeRequest_eq_some {c c' : Channel} {f : Frame} (h : c.takeRequest = (some f, c')) :
    c.outbound.items = f :: c'.outbound.items ∧ c'.inbound = c.inbound := by
  simp only [takeRequest, Queue.take] at h
  split at h
  · cases h
  · next hi => cases h; exact ⟨hi, rfl⟩

theorem outbound_of_putReply {c c' : Channel} {r : Response} (h : c.putReply r = .ok c') :
    c'.outbound = c.outbound := by
  unfold putReply at h
  cases hp : c.inbound.put r with
  | error e => rw [hp] at h; cases h
  | ok inbound => rw [hp] at h; cases h; rfl

/-- Sending fails for no other reason than that the link is closed. -/
theorem eq_closed_of_send {c : Channel} {request : SignedRequest} {target : UInt32}
    {e : TransportError} (h : (c.send request target).1 = .error e) :
    ∃ reason, e = .closed reason := by
  unfold send at h
  split at h
  · cases h; exact ⟨_, rfl⟩
  · split at h
    · cases h
    · cases h
    · cases h; exact ⟨_, rfl⟩

/-- Once closed, a channel stays closed, and refuses every request. -/
theorem send_of_isClosed {c : Channel} (h : c.isClosed = true) (request : SignedRequest)
    (target : UInt32) : c.send request target = (.error (.closed "link task ended"), c) := by
  rw [send, if_pos h]

end Channel

end SignedControl
