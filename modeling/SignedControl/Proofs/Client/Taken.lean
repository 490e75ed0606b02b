import Mathlib.Data.List.Nodup
import SignedControl.Proofs.Client.Run

/-!
# Which replies are taken

A reply is taken as the answer to a request while a request of its operation is in flight with its
number, and live. Any other reply passes through the client without a trace. And a reply that has
been taken is no answer to anything any more, until the numbers repeat.

* `Client.awaits`: whether a reply would be taken. `Client.receive_of_not_awaits`: if not, reading it
  changes nothing.
* `Client.takes`, `Client.taken`: the replies that are taken in a tick and in a run.
* `Client.count_turn_le`, `Client.count_run_le`: no number is taken or in flight more often than it
  has been given to a request.
* `Client.not_awaits_of_mem_taken`: so in no more than `2 ^ 32` requests no reply is taken twice.
-/

namespace SignedControl

/-! ## Waiting -/

namespace PendingSet

/-- Whether a live request with a number is in flight. -/
def awaits (s : PendingSet) (sequence : UInt32) (now : Instant) : Bool :=
  s.requests.any fun p => p.sequence == sequence && p.isLive now

variable {s : PendingSet} {sequence : UInt32} {now : Instant}

theorem takeLive?_of_not_awaits (h : s.awaits sequence now = false) :
    (s.takeLive? sequence now).1 = none := by
  rw [awaits, List.any_eq_false] at h
  exact List.find?_eq_none.mpr h

theorem awaits_of_mem {p : PendingRequest} (hp : p ∈ s.requests) (hlive : p.isLive now = true) :
    s.awaits p.sequence now = true :=
  List.any_eq_true.mpr ⟨p, hp, by rw [beq_self_eq_true, hlive]; rfl⟩

theorem exists_takeLive? (h : s.awaits sequence now = true) :
    ∃ p, (s.takeLive? sequence now).1 = some p :=
  Option.isSome_iff_exists.mp (List.find?_isSome.mpr (List.any_eq_true.mp h))

theorem mem_of_awaits (h : s.awaits sequence now = true) :
    sequence ∈ s.requests.map (·.sequence) := by
  obtain ⟨p, hp, hawaits⟩ := List.any_eq_true.mp h
  rw [Bool.and_eq_true, beq_iff_eq] at hawaits
  exact List.mem_map.mpr ⟨p, hp, hawaits.1⟩

/-- The number of a request that is taken is in flight once less. -/
theorem count_takeLive? (h : s.awaits sequence now = true) (number : UInt32) :
    [sequence].count number +
        ((s.takeLive? sequence now).2.requests.map (·.sequence)).count number =
      (s.requests.map (·.sequence)).count number := by
  obtain ⟨p, hp⟩ := exists_takeLive? h
  obtain ⟨rfl, -, before, after, hsplit, hrest, -⟩ := takeLive?_eq hp
  simp only [hsplit, hrest, List.map_append, List.map_cons, List.count_append, List.count_cons,
    List.count_nil]
  omega

end PendingSet

namespace Handshake

variable {h : Handshake} {now : Instant} {r : Response}

theorem receive_of_not_awaits (hr : h.pending.awaits r.sequence now = false) :
    (h.receive now r).2 = h := by
  have htake := PendingSet.takeLive?_of_not_awaits hr
  cases hp : h.progress with
  | init | haveKey => simp only [receive, hp]
  | awaitingKey last pending =>
    simp only [Handshake.pending, hp] at htake
    cases hlive : pending.takeLive? r.sequence now with
    | mk answered rest =>
      rw [hlive] at htake
      subst htake
      simp only [receive, hp, hlive]

/-- A reply that is waited for ends the waiting for it, and brings its key if it has one. -/
theorem receive_of_awaits (hr : h.pending.awaits r.sequence now = true) :
    ∃ last, (h.receive now r).2 = { h with
      progress := match SessionKey.ofBytes? r.data with
        | some key => .haveKey key
        | none => .awaitingKey last (h.pending.takeLive? r.sequence now).2 } := by
  obtain ⟨p, hp⟩ := PendingSet.exists_takeLive? hr
  cases hprogress : h.progress with
  | init | haveKey => simp [pending, hprogress, PendingSet.awaits, PendingSet.empty] at hr
  | awaitingKey last pending =>
    simp only [Handshake.pending, hprogress] at hp ⊢
    refine ⟨last, ?_⟩
    cases htake : pending.takeLive? r.sequence now with
    | mk taken rest =>
      rw [htake] at hp
      subst hp
      simp only [receive, hprogress, htake]
      cases SessionKey.ofBytes? r.data <;> rfl

/-- The handshake waits for the number once less, or for nothing any more. -/
theorem count_receive (hr : h.pending.awaits r.sequence now = true) (number : UInt32) :
    [r.sequence].count number +
        ((h.receive now r).2.pending.requests.map (·.sequence)).count number ≤
      (h.pending.requests.map (·.sequence)).count number := by
  have hcount := PendingSet.count_takeLive? hr number
  obtain ⟨last, hreceive⟩ := receive_of_awaits hr
  rw [hreceive]
  cases SessionKey.ofBytes? r.data with
  | some key => exact Nat.le_trans (Nat.le_add_right _ _) (Nat.le_of_eq hcount)
  | none => exact Nat.le_of_eq hcount

end Handshake

namespace Delivery

variable {d : Delivery} {now : Instant} {r : Response}

theorem receive_of_not_awaits (hr : d.pending.awaits r.sequence now = false) :
    d.receive now r = (none, d) := by
  have htake := PendingSet.takeLive?_of_not_awaits hr
  unfold receive
  split
  · rfl
  · cases hlive : d.pending.takeLive? r.sequence now with
    | mk answered rest =>
      rw [hlive] at htake
      subst htake
      rfl

theorem receive_of_awaits (hout : d.outcome = none)
    (hr : d.pending.awaits r.sequence now = true) :
    d.receive now r = (some r.commandResult, d.answered r.commandResult) := by
  obtain ⟨p, hp⟩ := PendingSet.exists_takeLive? hr
  cases htake : d.pending.takeLive? r.sequence now with
  | mk taken rest =>
    rw [htake] at hp
    subst hp
    simp only [receive, hout, htake, answered, Option.isSome_none, Bool.false_eq_true, if_false]

end Delivery

namespace Client

variable {c : Client} {now : Instant} {r : Response}

/-- Whether a reply would be taken as the answer to a request: one of its own operation, with its
number, that is in flight and live. Once the change has been answered, none is. -/
def awaits (c : Client) (now : Instant) (r : Response) : Bool :=
  c.delivery.outcome.isNone &&
    match Operation.ofCode? r.operation with
    | some .getSessionKey => c.handshake.pending.awaits r.sequence now
    | some .setConfig => c.delivery.pending.awaits r.sequence now
    | none => false

theorem awaits_of_outcome {result : CommandResult} (h : c.delivery.outcome = some result) :
    c.awaits now r = false := by
  rw [awaits, h]
  rfl

/-- A reply that is not waited for is as good as none. -/
theorem receive_of_not_awaits (hout : c.delivery.outcome = none) (h : c.awaits now r = false)
    (rest : List Response) : c.receive now (r :: rest) = c.receive now rest := by
  simp only [awaits, hout, Option.isNone_none, Bool.true_and] at h
  rw [receive]
  split
  · next hop =>
    rw [hop] at h
    rw [Handshake.receive_of_not_awaits h]
  · next hop =>
    rw [hop] at h
    rw [Delivery.receive_of_not_awaits h]
  · rfl

/-- Replies are read one after another, up to one that ends the delivery. -/
theorem receive_cons (c : Client) (now : Instant) (r : Response) (rest : List Response) :
    c.receive now (r :: rest) =
      match c.receive now [r] with
      | (c', _, some result) => (c', rest, some result)
      | (c', _, none) => c'.receive now rest := by
  simp only [receive]
  split
  · rfl
  · split <;> rfl
  · rfl

/-- What reading says is what the delivery holds. -/
theorem outcome_receive (hout : c.delivery.outcome = none) (now : Instant) (rs : List Response) :
    (c.receive now rs).1.delivery.outcome = (c.receive now rs).2.2 := by
  rcases receive_cases hout now rs with ⟨_, r, _, _, -, -, -, he⟩ | he
  · rw [he]
    rfl
  · rw [he]
    exact hout

/-- After the answer to the change, whatever is read, it stays. -/
theorem outcome_receive_of_some {result : CommandResult} (h : c.delivery.outcome = some result)
    (now : Instant) (rs : List Response) :
    (c.receive now rs).1.delivery.outcome = some result := by
  induction rs generalizing c with
  | nil => exact h
  | cons r rest ih =>
    have hreceive : c.delivery.receive now r = (none, c.delivery) := by
      rw [Delivery.receive, h]
      rfl
    simp only [receive, hreceive]
    split
    · exact ih h
    · exact ih h
    · exact ih h

/-! ## Taking -/

/-- The replies among some that are taken as answers, read one after another. -/
def takes (c : Client) (now : Instant) : List Response → List Response
  | [] => []
  | r :: rest => (if c.awaits now r then [r] else []) ++ (c.receive now [r]).1.takes now rest

theorem takes_of_outcome {result : CommandResult} (h : c.delivery.outcome = some result)
    (now : Instant) (rs : List Response) : c.takes now rs = [] := by
  induction rs generalizing c with
  | nil => rfl
  | cons r rest ih =>
    rw [takes, awaits_of_outcome h, ih (outcome_receive_of_some h now [r])]
    rfl

/-- The numbers of the requests in flight. -/
def inFlight (c : Client) : List UInt32 :=
  c.handshake.pending.requests.map (·.sequence) ++ c.delivery.pending.requests.map (·.sequence)

theorem mem_inFlight_of_awaits (h : c.awaits now r = true) : r.sequence ∈ c.inFlight := by
  simp only [awaits, Bool.and_eq_true] at h
  obtain ⟨-, h⟩ := h
  split at h
  · exact List.mem_append_left _ (PendingSet.mem_of_awaits h)
  · exact List.mem_append_right _ (PendingSet.mem_of_awaits h)
  · cases h

/-- A reply that is taken ends the waiting for its number, at least once. -/
theorem count_receive_of_awaits (h : c.awaits now r = true) (number : UInt32) :
    [r.sequence].count number + (c.receive now [r]).1.inFlight.count number ≤
      c.inFlight.count number := by
  simp only [awaits, Bool.and_eq_true, Option.isNone_iff_eq_none] at h
  obtain ⟨hout, h⟩ := h
  cases hop : Operation.ofCode? r.operation with
  | none =>
    rw [hop] at h
    cases h
  | some op =>
    cases op with
    | getSessionKey =>
      rw [hop] at h
      have hcount := Handshake.count_receive h number
      simp only [inFlight, receive, hop, List.count_append]
      omega
    | setConfig =>
      rw [hop] at h
      have hcount := PendingSet.count_takeLive? h number
      simp only [inFlight, receive, hop, Delivery.receive_of_awaits hout h, Delivery.answered,
        PendingSet.empty, List.count_append, List.map_nil, List.count_nil]
      omega

/-- No number is taken more often than it is waited for. -/
theorem count_takes_le (hout : c.delivery.outcome = none) (now : Instant) (rs : List Response)
    (number : UInt32) :
    ((c.takes now rs).map (·.sequence)).count number + (c.receive now rs).1.inFlight.count number ≤
      c.inFlight.count number := by
  induction rs generalizing c with
  | nil => simp [takes, receive]
  | cons r rest ih =>
    by_cases hawaits : c.awaits now r = true
    · have hcount := count_receive_of_awaits hawaits number
      have hread := outcome_receive hout now [r]
      have hcons := c.receive_cons now r rest
      rw [takes, if_pos hawaits, List.map_append, List.count_append, List.map_singleton]
      cases hreceive : c.receive now [r] with
      | mk c' given =>
        obtain ⟨unread, _ | result⟩ := given
        · simp only [hreceive] at hread hcount hcons ⊢
          have hrest := ih hread
          rw [hcons]
          omega
        · simp only [hreceive] at hread hcount hcons ⊢
          rw [takes_of_outcome hread, hcons]
          simpa using hcount
    · rw [Bool.not_eq_true] at hawaits
      rw [takes, hawaits, receive_of_not_awaits hout hawaits, receive_of_not_awaits hout hawaits]
      exact ih hout

/-! ## Numbers in a run -/

theorem count_expire_le (c : Client) (now : Instant) (number : UInt32) :
    (c.expire now).inFlight.count number ≤ c.inFlight.count number := by
  have hsublist := (c.handshake.expire_drops now).sublist
  have hfilter : (c.delivery.expire now).pending.requests.Sublist c.delivery.pending.requests :=
    List.filter_sublist
  exact ((hsublist.map _).append (hfilter.map _)).count_le number

/-- A request that is sent is in flight. -/
theorem count_sent (c : Client) (now : Instant) (number : UInt32) :
    (c.sent now).inFlight.count number =
      c.inFlight.count number + [c.counter.next].count number := by
  cases hk : c.handshake.sessionKey with
  | none =>
    simp only [sent, hk, inFlight, Handshake.sent, Handshake.pending, PendingSet.push,
      List.map_append, List.map_singleton, List.count_append]
    omega
  | some key =>
    simp only [sent, hk, inFlight, Delivery.sent, PendingSet.push, List.map_append,
      List.map_singleton, List.count_append]
    omega

section Scheme

variable [SignatureScheme]

/-- In a turn, a number that is taken is not waited for any more, and one that comes to be waited
for has been given to a request. -/
theorem count_turn_le (c : Client) (t : Turn) (number : UInt32) :
    ((c.takes t.now t.arrived).map (·.sequence)).count number +
        (c.turn t).client.inFlight.count number ≤
      c.inFlight.count number +
        ((c.turn t).offered.toList.map (·.request.sequence)).count number := by
  unfold turn tick
  split
  · next result hout =>
    rw [takes_of_outcome hout]
    simp
  · next hout =>
    have hcount := count_takes_le hout t.now t.arrived number
    split
    · next c' unread result hreceive =>
      simp only [hreceive] at hcount
      simpa using hcount
    · next c' unread hreceive =>
      simp only [hreceive] at hcount
      have hexpire := c'.count_expire_le t.now number
      simp only [send_eq]
      split
      · cases t.outcome with
        | ok =>
          simp only [count_sent, Option.toList_some, List.map_singleton, sequence_nextRequest]
          omega
        | error e =>
          refine Nat.le_add_right_of_le (Nat.le_trans (Nat.add_le_add_left ?_ _) hcount)
          exact hexpire
      · refine Nat.le_add_right_of_le (Nat.le_trans (Nat.add_le_add_left ?_ _) hcount)
        exact hexpire

/-- The replies that are taken in some turns. -/
def taken (c : Client) : List Turn → List Response
  | [] => []
  | t :: later => c.takes t.now t.arrived ++ (c.turn t).client.taken later

/-- In a run no number is taken or in flight more often than it was in flight before or has been
given to a request. -/
theorem count_run_le (c : Client) (turns : List Turn) (number : UInt32) :
    ((c.taken turns).map (·.sequence)).count number + (c.run turns).inFlight.count number ≤
      c.inFlight.count number + ((c.calls turns).map (·.request.sequence)).count number := by
  induction turns generalizing c with
  | nil => simp [taken, calls, run]
  | cons t later ih =>
    have hturn := c.count_turn_le t number
    have hlater := ih (c.turn t).client
    rw [taken, calls, run_cons, List.map_append, List.map_append, List.count_append,
      List.count_append]
    omega

/-- In no more than `2 ^ 32` requests no number is used twice. -/
theorem count_calls_le_one {turns : List Turn} (hfew : (c.calls turns).length ≤ UInt32.size)
    (number : UInt32) : ((c.calls turns).map (·.request.sequence)).count number ≤ 1 := by
  refine List.nodup_iff_count_le_one.mp ?_ number
  rw [List.nodup_iff_getElem?_ne_getElem?]
  intro i j hij hj heq
  rw [List.length_map] at hj
  have hi := List.getElem?_eq_getElem (Nat.lt_trans hij hj)
  have hj' := List.getElem?_eq_getElem hj
  rw [List.getElem?_map, List.getElem?_map, hi, hj', Option.map_some, Option.map_some,
    Option.some.injEq] at heq
  have hsequence := sequence_of_calls hi
  have hsequence' := sequence_of_calls hj'
  rw [heq] at hsequence
  simp only [UInt32.size] at hsequence hsequence' hfew
  omega

/-- A reply that has been taken, in an earlier turn or before in the same, is not waited for any
more. -/
theorem not_awaits_of_mem_taken (hnew : c.inFlight = []) {turns : List Turn} {read : List Response}
    (hfew : (c.calls turns).length ≤ UInt32.size)
    (hr : r ∈ c.taken turns ++ (c.run turns).takes now read) :
    ((c.run turns).receive now read).1.awaits now r = false := by
  cases hout : (c.run turns).delivery.outcome with
  | some result => exact awaits_of_outcome (outcome_receive_of_some hout now read)
  | none =>
    rw [Bool.eq_false_iff]
    intro hawaits
    -- The number would be taken and in flight, but it has been given to one request only.
    have hflight := List.count_pos_iff.mpr (mem_inFlight_of_awaits hawaits)
    have htaken : 0 < ((c.taken turns ++ (c.run turns).takes now read).map (·.sequence)).count
        r.sequence := List.count_pos_iff.mpr (List.mem_map_of_mem hr)
    rw [List.map_append, List.count_append] at htaken
    have hrun := c.count_run_le turns r.sequence
    have htakes := count_takes_le hout now read r.sequence
    have hcalls := count_calls_le_one hfew r.sequence
    rw [hnew, List.count_nil] at hrun
    omega

end Scheme

end Client

end SignedControl
