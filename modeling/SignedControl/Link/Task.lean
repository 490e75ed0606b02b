import SignedControl.Link.Channel
import SignedControl.Wire.Stream

/-!
# Links

A link carries requests from a client to a byte stream and replies back. Its task does one thing
at a time: it waits for a request to write or for bytes to read, takes frames out of what it has
read, or hands a reply to the client. While the client's queue is full it does nothing else. Frames
for other nodes and frames that carry no reply are passed over; a malformed frame or a bad length
ends the task, and so do the end of the stream and the client's leaving.

Each step of the task is a function of its own, so that they can be put together in any order:
`write?` and `read?` are the two that touch the stream, `work?` is the one that does not.

* `effort_lt_of_work?`: the steps that do not touch the stream come to an end.
* `write?_eq_some`, `read?_eq_some`: what the steps on the stream do.
-/

namespace SignedControl

/-- The number of places in each queue of a link. -/
def linkDepth : Nat := 32

/-- What a link's task is doing. -/
inductive Activity where
  /-- It waits for a request to write or for bytes to read. -/
  | waiting
  /-- It takes frames out of what it has read. -/
  | decoding
  /-- It has a reply for the client. -/
  | delivering (r : Response)
  /-- It has ended. -/
  | ended
deriving DecidableEq

/-- How far an activity is from the task's end. -/
def Activity.rank : Activity → Nat
  | .ended => 0
  | .waiting => 1
  | .decoding => 2
  | .delivering _ => 3

/-- A link: the client's end, and the task at the other end. -/
structure Link where
  /-- The client's end. -/
  channel : Channel
  /-- What has been read and not been decoded. -/
  decoder : Wire.Decoder
  /-- What the task is doing. -/
  activity : Activity
deriving DecidableEq

namespace Link

/-- The greatest number of bytes that a task reads at once. -/
def readSize : Nat := 1024

/-- A link that has just been made. -/
def new (localNode : UInt32) : Link :=
  ⟨.new localNode linkDepth linkDepth, .empty, .waiting⟩

/-- The link after its task has ended. -/
def finish (l : Link) : Link :=
  { l with channel := l.channel.dropTask, activity := .ended }

/-- What the task does with a frame. -/
def accept (l : Link) (f : Frame) : Link :=
  match f.body with
  | some (.response r) =>
    if f.target = l.channel.localNode then { l with activity := .delivering r } else l
  | _ => l

/-- The task's next step, if that is not one on the stream. -/
def work? (l : Link) : Option Link :=
  match l.activity with
  | .decoding =>
    match l.decoder.next with
    | (.ok none, d) => some { l with decoder := d, activity := .waiting }
    | (.ok (some f), d) => some ({ l with decoder := d }.accept f)
    | (.error _, d) => some { l with decoder := d }.finish
  | .delivering r =>
    match l.channel.putReply r with
    | .ok channel => some { l with channel := channel, activity := .decoding }
    | .error .full => none
    | .error .abandoned => some l.finish
  | _ => none

/-- Writes the next request. With nothing left to write and the client gone, the task ends. -/
def write? (l : Link) : Option (Bytes × Link) :=
  match l.activity with
  | .waiting =>
    match l.channel.takeRequest with
    | (some f, channel) =>
      let l := { l with channel := channel }
      match Wire.encode f with
      | .ok bytes => some (bytes, l)
      | .error _ => some ([], l.finish)
    | (none, _) => if l.channel.outbound.isFinished then some ([], l.finish) else none
  | _ => none

/-- Takes bytes that have been read. None at all means the end of the stream. -/
def read? (l : Link) (b : Bytes) : Option Link :=
  match l.activity with
  | .waiting =>
    if b.isEmpty then some l.finish
    else some { l with decoder := l.decoder.extend b, activity := .decoding }
  | _ => none

/-- How much the task has to do before it waits again, if the client makes room. -/
def effort (l : Link) : Nat := 2 * l.decoder.buffer.length + l.activity.rank

theorem effort_finish_le (l : Link) : l.finish.effort ≤ 2 * l.decoder.buffer.length := Nat.le_refl _

theorem effort_accept_le (l : Link) (f : Frame) (h : l.activity = .decoding) :
    (l.accept f).effort ≤ 2 * l.decoder.buffer.length + 3 := by
  simp only [accept, effort]
  split
  · split
    · exact Nat.le_refl _
    · simp [h, Activity.rank]
  · simp [h, Activity.rank]

theorem effort_lt_of_work? {l l' : Link} (h : l.work? = some l') : l'.effort < l.effort := by
  unfold work? at h
  split at h
  · next hd =>
    have hle := l.decoder.length_le_next
    have he : l.effort = 2 * l.decoder.buffer.length + 2 := by rw [effort, hd, Activity.rank]
    split at h
    · next d hn =>
      rw [hn] at hle
      cases h
      simp only [effort, Activity.rank] at he hle ⊢
      omega
    · next f d hn =>
      have hlt := Wire.Decoder.length_lt_of_next hn
      have ha := effort_accept_le { l with decoder := d } f hd
      cases h
      simp only at ha
      omega
    · next d hn =>
      rw [hn] at hle
      have hf := effort_finish_le { l with decoder := d }
      cases h
      simp only at hf hle
      omega
  · next r hd =>
    have he : l.effort = 2 * l.decoder.buffer.length + 3 := by rw [effort, hd, Activity.rank]
    split at h
    · cases h
      simp only [effort, Activity.rank] at he ⊢
      omega
    · cases h
    · have hf := effort_finish_le l
      cases h
      omega
  · cases h

theorem pending_le_of_work? {l l' : Link} (h : l.work? = some l') :
    l'.channel.outbound.items.length ≤ l.channel.outbound.items.length := by
  unfold work? at h
  split at h
  · split at h
    · cases h; exact Nat.le_refl _
    · cases h
      simp only [accept]
      split
      · split <;> exact Nat.le_refl _
      · exact Nat.le_refl _
    · cases h; exact Nat.zero_le _
  · split at h
    · next hp =>
      cases h
      exact Nat.le_of_eq (congrArg (·.items.length) (Channel.outbound_of_putReply hp))
    · cases h
    · cases h; exact Nat.zero_le _
  · cases h

/-- Writing is the step of a waiting task; it takes one request, or ends the task. -/
theorem write?_eq_some {l l' : Link} {b : Bytes} (h : l.write? = some (b, l')) :
    l.activity = .waiting ∧ l'.decoder = l.decoder ∧
      (l'.activity = .ended ∧ l'.channel.outbound.items = [] ∨
        l'.activity = .waiting ∧ ∃ f, l.channel.outbound.items = f :: l'.channel.outbound.items ∧
          Wire.encode f = .ok b) := by
  unfold write? at h
  split at h
  · next ha =>
    refine ⟨ha, ?_⟩
    split at h
    · next f channel ht =>
      have hi := (Channel.takeRequest_eq_some ht).1
      simp only at h
      split at h
      · next he => cases h; exact ⟨rfl, .inr ⟨ha, f, hi, he⟩⟩
      · cases h; exact ⟨rfl, .inl ⟨rfl, rfl⟩⟩
    · split at h
      · cases h; exact ⟨rfl, .inl ⟨rfl, rfl⟩⟩
      · cases h
  · cases h

/-- Reading is the step of a waiting task, too. -/
theorem read?_eq_some {l l' : Link} {b : Bytes} (h : l.read? b = some l') :
    l.activity = .waiting ∧
      (b = [] ∧ l' = l.finish ∨
        b ≠ [] ∧ l' = { l with decoder := l.decoder.extend b, activity := .decoding }) := by
  unfold read? at h
  split at h
  · next ha =>
    refine ⟨ha, ?_⟩
    split at h
    · next hb => cases h; exact .inl ⟨List.isEmpty_iff.mp hb, rfl⟩
    · next hb =>
      cases h
      exact .inr ⟨fun hn => hb (List.isEmpty_iff.mpr hn), rfl⟩
  · cases h

end Link

end SignedControl
