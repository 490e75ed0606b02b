import SignedControl.Proofs.Client.Order
import SignedControl.Proofs.Link.Traffic
import SignedControl.Proofs.Node.Exchange

/-!
# Everything that is sent can be written

A frame that is too long to be written would end the link that it is sent over, or the connection
that it answers. There is none: a change that a client is made for leaves room for its signature,
the longest request leaves room for the rest of its frame, and a reply is shorter still. The session
key does not count, whatever the node has sent for one, because it is signed and not sent.

* `SignedRequest.fits_of_payload`: what follows from a payload that leaves room for a signature.
* `Client.payload_of_mem_calls`: the payloads of the requests of a run.
* `Traffic.Writable.step`, `Traffic.Writable.isFinished`: the queue of a link, and what is left of it
  when the task ends.
* `Node.Connection.status_run`: why a connection does not end.
* `Client.always_writable`: all together.
-/

namespace SignedControl

open Node (Connection Status serveBuffered)

section Scheme

variable [SignatureScheme]

/-! ## Requests -/

/-- A request that can be written, and that a node judges by its signature. -/
structure SignedRequest.Fits (r : SignedRequest) : Prop where
  /-- Its data are not too long. -/
  length_le : r.toRequest.data.length ≤ maxCommandData
  /-- It can be written, from and to any node. -/
  encode_eq : ∀ source target, ∃ bytes,
    Wire.encode (.ofRequest source target r.toRequest) = .ok bytes
  /-- A node carries it out if its signature is valid under a trusted key, and denies it if not. -/
  handle_eq : ∀ a : Authority, a.handle r.toRequest =
    if a.keys.any fun key => verifyCommand key r.sequence r.operation r.payload
      (a.sessionKey.map (·.bytes)) r.signature.bytes
    then a.execute r.toRequest r.operation r.payload
    else (r.toRequest.reply .denied [], a)

theorem SignedRequest.fits_of_payload {r : SignedRequest}
    (h : r.payload.length ≤ maxConfigPayload) : r.Fits := by
  have hroom : maxConfigPayload + signatureLength = maxCommandData := rfl
  have hframe : maxCommandData + 38 ≤ Wire.maxFrameSize := by decide
  have hlength := r.length_data_toRequest
  refine ⟨by omega, fun source target => ?_, fun a => ?_⟩
  · exact Wire.exists_encode_ofRequest source target (by omega)
  · have hsize : ¬ maxCommandData < r.toRequest.data.length := by omega
    have hoperation : Operation.ofCode? r.toRequest.operation = some r.operation :=
      Operation.ofCode?_code r.operation
    have hsignature : (r.signature.bytes.length == signatureLength) = true :=
      beq_iff_eq.mpr r.signature.length_eq
    simp only [Authority.handle, if_neg hsize, r.split?_toRequest, hoperation, Authority.permits,
      hsignature, Bool.true_and]
    rfl

namespace Client

variable {c : Client}

/-- A request has no payload, or the change. -/
theorem payload_of_mem_calls {turns : List Turn} {o : Outgoing} (h : o ∈ c.calls turns) :
    o.request.payload = [] ∨ o.request.payload = c.delivery.payload.bytes := by
  induction turns generalizing c with
  | nil => cases h
  | cons t turns ih =>
    rcases List.mem_append.mp h with h | h
    · obtain ⟨-, hask⟩ | ⟨k, -, hchange⟩ := request_of_offered (Option.mem_toList.mp h)
      · exact .inl (congrArg SignedRequest.payload hask)
      · exact .inr (congrArg SignedRequest.payload hchange)
    · rw [← (c.sameTask_turn t).payload_eq]
      exact ih h

/-- What a turn hands to the transport is one of the requests of the run. -/
theorem mem_calls_concat {turns : List Turn} {t : Turn} {o : Outgoing}
    (h : ((c.run turns).turn t).offered = some o) : o ∈ c.calls (turns ++ [t]) := by
  rw [calls_append]
  refine List.mem_append_right _ (List.mem_append_left _ ?_)
  rw [h]
  exact List.mem_singleton_self o

theorem fits_of_mem_calls {turns : List Turn} {o : Outgoing} (h : o ∈ c.calls turns) :
    o.request.Fits := by
  refine SignedRequest.fits_of_payload ?_
  rcases payload_of_mem_calls h with hpayload | hpayload
  · rw [hpayload]
    exact Nat.zero_le _
  · rw [hpayload]
    exact c.delivery.payload.length_le

end Client

/-! ## The link -/

namespace Traffic

/-- Everything in the queue of requests can be written. -/
def Writable (t : Traffic) : Prop :=
  ∀ f ∈ t.link.channel.outbound.items, ∃ bytes, Wire.encode f = .ok bytes

variable {t t' : Traffic} {e : LinkEvent}

theorem Writable.step (h : t.Writable) (he : ∀ r target, e = .send r target → r.Fits)
    (hs : Steps t e t') : t'.Writable := by
  cases hs with
  | queued r target =>
    refine List.forall_mem_append.mpr ⟨h, ?_⟩
    exact List.forall_mem_singleton.mpr ((he r target rfl).encode_eq _ target)
  | wrote f rest _ _ _ hi =>
    rw [Writable, hi] at h
    exact (List.forall_mem_cons.mp h).2
  | spoilt | unwanted | ended => exact List.forall_mem_nil _
  | _ => exact h

theorem Writable.run (h : t.Writable) {events : List LinkEvent}
    (hevents : ∀ r target, .send r target ∈ events → r.Fits) : (t.run events).Writable :=
  run_induction_of_mem h fun _ _ _ hmem hp hs =>
    hp.step (fun r target he => hevents r target (he ▸ hmem)) hs

omit [SignatureScheme] in
/-- A task that ends when it wants to write has nothing left to write, and the client has left. -/
theorem Writable.isFinished (h : t.Writable) {bytes : Bytes} {link : Link}
    (hwrite : t.link.write? = some (bytes, link)) (hended : link.activity = .ended) :
    t.link.channel.outbound.isFinished = true := by
  obtain ⟨ha, -⟩ := Link.write?_cases hwrite
  cases hi : t.link.channel.outbound.items with
  | nil =>
    simp only [Link.write?, ha, Channel.takeRequest, Queue.take, hi] at hwrite
    split at hwrite
    · assumption
    · cases hwrite
  | cons f rest =>
    obtain ⟨bytes', hf⟩ := h f (hi ▸ List.mem_cons_self)
    rw [Link.write?_of_cons ha hi hf] at hwrite
    cases hwrite
    cases ha.symm.trans hended

end Traffic

/-! ## The node -/

omit [SignatureScheme] in
/-- What is wrong with a stream is never the length of a frame that is written. -/
theorem Wire.frames_ne_frameTooLarge (b : Bytes) (size : Nat) :
    (frames b).2 ≠ some (.frameTooLarge size) := by
  fun_induction frames b with
  | case1 | case2 | case3 =>
    intro h
    cases h
  | case4 _ _ _ _ _ _ ih => exact ih

namespace Node.Connection

/-- A connection that was not broken off because of a reply is not when it reads, either. -/
theorem status_receive {nodeId : UInt32} {c : Connection} {size : Nat}
    (h : c.status ≠ .failed (.frameTooLarge size)) (a : Authority) (b : Bytes) :
    (c.receive nodeId a b).2.1.status ≠ .failed (.frameTooLarge size) := by
  unfold receive
  split
  · split
    · nofun
    · obtain ⟨d, hserved, -⟩ := serveBuffered_eq nodeId a (c.decoder.extend b)
      have hfault := Wire.frames_ne_frameTooLarge (c.decoder.extend b).buffer size
      simp only [hserved]
      cases hfault' : (Wire.frames (c.decoder.extend b).buffer).2 with
      | none => nofun
      | some e =>
        rintro heq
        cases heq
        exact hfault hfault'
  · exact h

theorem status_run {nodeId : UInt32} {c : Connection} {size : Nat}
    (h : c.status ≠ .failed (.frameTooLarge size)) (a : Authority) (pieces : List Bytes) :
    (c.run nodeId a pieces).2.1.status ≠ .failed (.frameTooLarge size) := by
  induction pieces generalizing c a with
  | nil => exact status_receive h a []
  | cons b pieces ih => exact ih (status_receive h a b) _

end Node.Connection

/-! ## All together -/

namespace Client

/-- Whatever change a client has been made for, and whatever it meets, each of its requests has at
most 220 bytes of data, which are split into its payload, nothing or the change, and a signature of
64 bytes; it can be written, from and to any node; and a node judges it by its signature alone. A
link that sends nothing but such requests never ends because of one that cannot be written: if it
ends when it wants to write, there is nothing left and the client has gone. The reply of any node to
any frame can be written, so that no connection, whatever comes in, is broken off because of one. -/
theorem always_writable {config : ClientConfig} {key : PrivateKey} {change : String}
    {start : UInt32} {c : Client} (hc : new config key change start = .ok c) :
    (∀ turns, ∀ o ∈ c.calls turns,
      o.request.toRequest.data.length ≤ 220 ∧
      o.request.toRequest.split? = some (o.request.payload, o.request.signature.bytes) ∧
      (o.request.payload = [] ∨ o.request.payload = Bytes.ofString change) ∧
      o.request.signature.bytes.length = 64 ∧
      (∀ source target, ∃ bytes,
        Wire.encode (.ofRequest source target o.request.toRequest) = .ok bytes) ∧
      ∀ a : Authority, a.handle o.request.toRequest =
        if a.keys.any fun key => verifyCommand key o.request.sequence o.request.operation
          o.request.payload (a.sessionKey.map (·.bytes)) o.request.signature.bytes
        then a.execute o.request.toRequest o.request.operation o.request.payload
        else (o.request.toRequest.reply .denied [], a)) ∧
    (∀ localNode events,
      (∀ r target, .send r target ∈ events → ∃ turns, ∃ o ∈ c.calls turns, o.request = r) →
      ∀ bytes link, ((Traffic.new localNode).run events).link.write? = some (bytes, link) →
        link.activity = .ended →
          ((Traffic.new localNode).run events).link.channel.outbound.isFinished = true) ∧
    (∀ (a a' : Authority) nodeId f reply, a.handleFrame nodeId f = (some reply, a') →
      ∃ bytes, Wire.encode reply = .ok bytes) ∧
    ∀ (a : Authority) nodeId pieces size,
      (Connection.new.run nodeId a pieces).2.1.status ≠ .failed (.frameTooLarge size) := by
  obtain ⟨payload, hpayload, rfl⟩ := new_eq_ok hc
  refine ⟨fun turns o ho => ?_, fun localNode events hsent bytes link hwrite hended => ?_, ?_, ?_⟩
  · have hfits := fits_of_mem_calls ho
    have hcarried := payload_of_mem_calls ho
    rw [← hpayload]
    exact ⟨hfits.length_le, o.request.split?_toRequest, hcarried, o.request.signature.length_eq,
      hfits.encode_eq, hfits.handle_eq⟩
  · have hempty : (Traffic.new localNode).Writable := List.forall_mem_nil _
    refine (hempty.run fun r target hmem => ?_).isFinished hwrite hended
    obtain ⟨turns, o, ho, rfl⟩ := hsent r target hmem
    exact fits_of_mem_calls ho
  · intro a a' nodeId f reply hreply
    exact ⟨_, Authority.encode_of_handleFrame hreply⟩
  · intro a nodeId pieces size
    exact Connection.status_run (c := .new) (fun h => nomatch h) a pieces

end Client

end Scheme

namespace Client

/-- A client sends a request and leaves before it has gone out. -/
def sentAndLeft (r : SignedRequest) : List LinkEvent := [.send r 10, .leave, .write, .flush 256]

theorem always_writable_locking :
    ∃ o ∈ (locking 3).calls [askTurn, takeTurn], o.request.operation = .setConfig ∧
      o.request.toRequest.data.length ≤ 220 ∧
      (∃ bytes, Wire.encode (.ofRequest 100 10 o.request.toRequest) = .ok bytes) ∧
      ∀ bytes link,
        ((Traffic.new 100).run (sentAndLeft o.request)).link.write? = some (bytes, link) →
          link.activity = .ended →
          ((Traffic.new 100).run (sentAndLeft o.request)).link.channel.outbound.isFinished =
            true := by
  obtain ⟨hrequests, hlink, -, -⟩ := always_writable (new_locking 3)
  obtain ⟨o, ho, hoperation⟩ := Option.map_eq_some_iff.mp offered_takeTurn
  have hmem : o ∈ (locking 3).calls ([askTurn] ++ [takeTurn]) := mem_calls_concat ho
  obtain ⟨hlength, -, -, -, hencode, -⟩ := hrequests _ o hmem
  refine ⟨o, hmem, hoperation, hlength, hencode 100 10, hlink 100 _ fun r target hsend => ?_⟩
  have hr : r = o.request ∧ target = 10 := by simpa [sentAndLeft] using hsend
  exact ⟨_, o, hmem, hr.1.symm⟩

end Client

end SignedControl
