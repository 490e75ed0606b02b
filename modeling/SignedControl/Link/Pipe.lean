import SignedControl.Link.Task

/-!
# A link on a pipe

The stream of a link can be a pipe in memory, whose other end a node holds. The pipe takes a number
of bytes each way; while more than that are on their way to the node, the link's task is busy with
writing them.

`settle` lets the task run until it has nothing to do but wait. With a request to write and bytes
to read, it writes first.
-/

namespace SignedControl

/-- The number of bytes that a pipe takes each way. -/
def pipeCapacity : Nat := 1048576

/-- A link whose stream is a pipe. -/
structure Pipe where
  /-- The link. -/
  link : Link
  /-- What the task has written and the node has not read. -/
  toNode : Bytes
  /-- What the node has written and the task has not read. -/
  toLink : Bytes
  /-- Whether the node still holds its end. -/
  hasNode : Bool
deriving DecidableEq

namespace Pipe

/-- A pipe that nothing has gone through. -/
def new (localNode : UInt32) : Pipe := ⟨.new localNode, [], [], true⟩

/-- Whether the task is busy with writing. -/
def isBlocked (p : Pipe) : Bool := pipeCapacity < p.toNode.length

/-- The task's next step, unless it waits. Writing to a node that has gone ends the task. -/
def step? (p : Pipe) : Option Pipe :=
  match p.link.work? with
  | some link => some { p with link := link }
  | none =>
    if p.isBlocked then none
    else
      match p.link.write? with
      | some (b, link) =>
        if p.hasNode then some { p with link := link, toNode := p.toNode ++ b }
        else some { p with link := link.finish }
      | none =>
        if p.toLink.isEmpty && p.hasNode then none
        else
          (p.link.read? (p.toLink.take Link.readSize)).map fun link =>
            { p with link := link, toLink := p.toLink.drop Link.readSize }

/-- How much the task has to do before it waits. -/
def effort (p : Pipe) : Nat :=
  4 * p.toLink.length + p.link.effort + p.link.channel.outbound.items.length

theorem effort_lt_of_step? {p p' : Pipe} (h : p.step? = some p') : p'.effort < p.effort := by
  unfold step? at h
  split at h
  · next l hw =>
    cases h
    have h1 := Link.effort_lt_of_work? hw
    have h2 := Link.pending_le_of_work? hw
    simp only [effort] at *
    omega
  · split at h
    · cases h
    · split at h
      · next b l hw =>
        obtain ⟨ha, hd, hl⟩ := Link.write?_eq_some hw
        have he : p.link.effort = 2 * p.link.decoder.buffer.length + 1 := by
          rw [Link.effort, ha, Activity.rank]
        split at h
        · cases h
          rcases hl with ⟨hl, hi⟩ | ⟨hl, f, hi, -⟩
          · simp only [effort, Link.effort, hl, hd, hi, Activity.rank, List.length_nil] at he ⊢
            omega
          · simp only [effort, Link.effort, hl, hd, hi, Activity.rank, List.length_cons] at he ⊢
            omega
        · cases h
          have hf := Link.effort_finish_le l
          simp only [hd] at hf
          simp only [effort, Link.finish, Channel.dropTask, Queue.dropReader,
            List.length_nil] at hf ⊢
          omega
      · split at h
        · cases h
        · cases hr : p.link.read? (p.toLink.take Link.readSize) with
          | none => rw [hr] at h; cases h
          | some l =>
            rw [hr] at h
            cases h
            obtain ⟨ha, hl⟩ := Link.read?_eq_some hr
            have he : p.link.effort = 2 * p.link.decoder.buffer.length + 1 := by
              rw [Link.effort, ha, Activity.rank]
            have hs : (p.toLink.take Link.readSize).length + (p.toLink.drop Link.readSize).length =
                p.toLink.length := by
              rw [← List.length_append, List.take_append_drop]
            rcases hl with ⟨-, rfl⟩ | ⟨hb, rfl⟩
            · have hf := Link.effort_finish_le p.link
              simp only [effort, Link.finish, Channel.dropTask, Queue.dropReader,
                List.length_nil] at hf ⊢
              omega
            · have hpos := List.length_pos_iff.mpr hb
              simp only [effort, Link.effort, Activity.rank, Wire.Decoder.extend,
                List.length_append] at he ⊢
              omega

/-- Lets the task run until it waits. -/
def settle (p : Pipe) : Pipe :=
  match _h : p.step? with
  | none => p
  | some p' => settle p'
termination_by p.effort
decreasing_by exact effort_lt_of_step? _h

/-! ## The client's end and the node's -/

/-- Hands a request to the task. -/
def send (p : Pipe) (request : SignedRequest) (target : UInt32) :
    Except TransportError Unit × Pipe :=
  let (sent, channel) := p.link.channel.send request target
  (sent, { p with link := { p.link with channel := channel } })

/-- Takes replies a number of times. -/
def polls (p : Pipe) (times : Nat) : List (Option Response) × Pipe :=
  let (replies, channel) := p.link.channel.polls times
  (replies, { p with link := { p.link with channel := channel } })

/-- The pipe after the client has left. -/
def dropClient (p : Pipe) : Pipe :=
  { p with link := { p.link with channel := p.link.channel.dropClient } }

/-- Writes bytes from the node's end, and says whether they could be written. A node that has left
writes none. -/
def nodeWrite (p : Pipe) (b : Bytes) : Bool × Pipe :=
  if !p.hasNode then (false, p)
  else if b.isEmpty then (true, p)
  else if p.link.activity = .ended then (false, p)
  else (true, { p with toLink := p.toLink ++ b })

/-- Reads what has come through to the node, and says whether nothing more will come. -/
def nodeRead (p : Pipe) : (Bytes × Bool) × Pipe :=
  let rest := p.toNode.drop pipeCapacity
  let ended := p.link.activity = .ended || !p.hasNode
  ((p.toNode.take pipeCapacity, rest.isEmpty && ended), { p with toNode := rest })

/-- The pipe after the node has left. What the task was busy writing cannot be written. -/
def dropNode (p : Pipe) : Pipe :=
  { p with
    link := if p.isBlocked then p.link.finish else p.link
    toNode := []
    hasNode := false }

end Pipe

end SignedControl
