import SignedControl.Proofs.Dialogue.Line
import SignedControl.Proofs.Dialogue.Report

/-!
# Whether both ends agree on the session key

The client keeps the key of the first reply that it takes; the node keeps the key that it issued
last. On a line these are the same if the reply came within the retry interval, for then no further
request had been sent. If it came later, another request was on its way and makes the node change
the key.

* `Line.Settled`: a line on which the client has its key, after a number of requests for one.
* `Line.Settled.sessionKey_before`: the node then holds the key it gave to the last of them.
* `Authority.FitsHeldKey`: what it would take for a change over another key to be carried out.
* `Line.key_agreement`: so the two ends agree if and only if the key came in time.
-/

namespace SignedControl

/-- The signature that a key puts on a change over one session key is good over another, the one that
the node holds. -/
def Authority.FitsHeldKey [SignatureScheme] (a : Authority) (key : PrivateKey) (sequence : UInt32)
    (payload sessionKey : Bytes) : Prop :=
  ∃ held, a.sessionKey.map (·.bytes) = some held ∧
    FitsTwoKeys a.keys sequence payload
      (key.changeRequest sequence payload sessionKey).signature.bytes sessionKey held

section Requests

variable [SignatureScheme] [LawfulSignatureScheme] {a : Authority} {key : PrivateKey}

theorem PrivateKey.admits_keyRequest (hkey : key.publicKey ∈ a.keys) (sequence : UInt32) :
    a.Admits (key.keyRequest sequence).toRequest .getSessionKey []
      (key.keyRequest sequence).signature.bytes :=
  .of_signRequest hkey (key.signRequest_getSessionKey sequence) (by decide)
    (fun h => Bool.noConfusion h)

theorem PrivateKey.admits_changeRequest (hkey : key.publicKey ∈ a.keys) (sequence : UInt32)
    (payload : ConfigPayload) {sessionKey : Bytes}
    (hsession : a.sessionKey.map (·.bytes) = some sessionKey) :
    a.Admits (key.changeRequest sequence payload.bytes sessionKey).toRequest .setConfig
      payload.bytes (key.changeRequest sequence payload.bytes sessionKey).signature.bytes := by
  refine .of_signRequest hkey (key.signRequest_setConfig sequence payload.bytes sessionKey) ?_
    (fun _ => hsession.symm)
  have hle := payload.length_le
  have hmax : maxConfigPayload + signatureLength = maxCommandData := rfl
  omega

/-- A change that is admitted over another session key than its own has such a signature. -/
theorem PrivateKey.fitsHeldKey_of_changeRequest (hkey : key.publicKey ∈ a.keys) {sequence : UInt32}
    {payload sessionKey : Bytes} {payload' signature' : Bytes}
    (hadmits : a.Admits (key.changeRequest sequence payload sessionKey).toRequest .setConfig
      payload' signature')
    (hne : a.sessionKey.map (·.bytes) ≠ some sessionKey) :
    a.FitsHeldKey key sequence payload sessionKey := by
  have hown : verifyCommand key.publicKey sequence .setConfig payload (some sessionKey)
      (key.changeRequest sequence payload sessionKey).signature.bytes = true := by
    rw [verifyCommand, canonicalMessage_setConfig]
    exact PublicKey.verify_sign key _
  obtain ⟨-, rfl, rfl⟩ := hadmits.of_toRequest
  obtain ⟨-, k, hk, -⟩ := Authority.permits_setConfig_iff.mp hadmits.permits
  have hheld := Authority.exists_verifyCommand_of_permits hadmits.permits
  rw [hk, Option.map_some] at hheld hne
  refine ⟨k.bytes, congrArg _ hk, ?_, ⟨_, hkey, hown⟩, hheld⟩
  intro hsame
  exact hne (congrArg some hsame.symm)

end Requests

namespace Dialogue

variable [SignatureScheme] {d d' : Dialogue}

/-- The changes that the node has handled. -/
def changes (d : Dialogue) : List Handling :=
  d.handled.filter fun h => h.request.operation = Operation.setConfig.code

omit [SignatureScheme] in
theorem mem_changes {h : Handling} :
    h ∈ d.changes ↔ h ∈ d.handled ∧ h.request.operation = Operation.setConfig.code := by
  simp [changes]

variable {node : Authority}

theorem Traced.replies_take (ht : Traced node d) (n : Nat) :
    (d.handled.take n).map Handling.reply =
      (node.handleAll ((d.handled.take n).map (·.request))).1 := by
  have hreplies := ht.replies_eq
  rw [← List.take_append_drop n d.handled, List.map_append, List.map_append,
    Authority.handleAll_append] at hreplies
  exact (List.append_inj hreplies (by rw [List.length_map, Authority.length_handleAll,
    List.length_map])).1

theorem Traced.keys_before (ht : Traced node d) {n : Nat} {h : Handling}
    (hn : d.handled[n]? = some h) : h.before.keys = node.keys := by
  rw [ht.before_eq n h hn, Authority.keys_handleAll]

/-- The key that the node holds is the one that it issued last. -/
theorem Traced.sessionKey_before (ht : Traced node d) (hnode : node.sessionKey = none) {n : Nat}
    {h : Handling} (hn : d.handled[n]? = some h) :
    h.before.sessionKey.map (·.bytes) =
      (issuedKeys ((d.handled.take n).map Handling.reply)).getLast? := by
  rw [ht.before_eq n h hn, Authority.sessionKey_handleAll, hnode, ht.replies_take]
  exact Option.or_none

end Dialogue

namespace Line

section Scheme

variable [SignatureScheme]

/-- The client has its session key `k`, after `asked` requests for one. -/
structure Settled (c : Client) (node : Authority) (asked : Nat) (k : SessionKey) (l : Line) :
    Prop where
  /-- What is known of every line. -/
  ordered : Ordered c node l
  /-- The client has its key. -/
  sessionKey_eq : l.dialogue.client.handshake.sessionKey = some k
  /-- It has asked for it. -/
  asked_pos : 0 < asked
  /-- The requests for a key have been sent. -/
  asked_le : asked ≤ l.dialogue.sent.length
  /-- The first requests are for a key. -/
  asks : ∀ n s, n < asked → l.dialogue.sent[n]? = some s → s.request.operation = .getSessionKey
  /-- The others are for the change. -/
  changes : ∀ n s, asked ≤ n → l.dialogue.sent[n]? = some s → s.request.operation = .setConfig

variable {c : Client} {node : Authority} {asked : Nat} {k : SessionKey} {l : Line}

theorem Settled.of_sent {l' : Line} (ho : Ordered c node l')
    (hk : l'.dialogue.client.handshake.sessionKey = some k) (hpos : 0 < asked)
    (hle : asked ≤ l.dialogue.sent.length)
    (hasks : ∀ n s, n < asked → l.dialogue.sent[n]? = some s → s.request.operation = .getSessionKey)
    (hchanges : ∀ n s, asked ≤ n → l.dialogue.sent[n]? = some s →
      s.request.operation = .setConfig)
    (hsent : ∃ more, l'.dialogue.sent = l.dialogue.sent ++ more ∧
      ∀ s ∈ more, s.request.operation = .setConfig) : Settled c node asked k l' := by
  obtain ⟨more, hmore, hop⟩ := hsent
  refine ⟨ho, hk, hpos, ?_, fun n s hn hs => ?_, fun n s hn hs => ?_⟩
  · rw [hmore, List.length_append]
    exact Nat.le_trans hle (Nat.le_add_right _ _)
  · rw [hmore, List.getElem?_append_left (Nat.lt_of_lt_of_le hn hle)] at hs
    exact hasks n s hn hs
  · rw [hmore] at hs
    rcases Nat.lt_or_ge n l.dialogue.sent.length with hlt | hge
    · rw [List.getElem?_append_left hlt] at hs
      exact hchanges n s hn hs
    · rw [List.getElem?_append_right hge] at hs
      exact hop s (List.mem_of_getElem? hs)

theorem Settled.step (hl : Settled c node asked k l) (e : LineEvent) :
    Settled c node asked k (l.step e) := by
  have hs := l.steps_step e
  have hk := hs.sessionKey hl.sessionKey_eq
  exact .of_sent (hl.ordered.step e) hk hl.asked_pos hl.asked_le hl.asks hl.changes
    (hs.sent_of_sessionKey hk)

/-- Where the client has taken its key, all requests before were for a key. -/
theorem settled_of_taken (ho : Ordered c node l)
    (hk : l.dialogue.client.handshake.sessionKey = none) {e : LineEvent}
    (hk' : (l.step e).dialogue.client.handshake.sessionKey = some k)
    (hpos : 0 < l.dialogue.sent.length) : Settled c node l.dialogue.sent.length k (l.step e) := by
  refine .of_sent (ho.step e) hk' hpos (Nat.le_refl _) (fun n s _ hs => ?_) (fun n s hn hs => ?_)
    ((l.steps_step e).sent_of_sessionKey hk')
  · rcases ho.sound.authored.sent s (List.mem_of_getElem? hs) with h | ⟨k', hk'', -⟩
    · rw [h]
      rfl
    · cases hk.symm.trans hk''
  · exact absurd (List.getElem?_eq_some_iff.mp hs).1 (Nat.not_lt.mpr hn)

/-- What the node has handled stays. -/
theorem handled_run (l : Line) (events : List LineEvent) :
    ∃ more, (l.run events).dialogue.handled = l.dialogue.handled ++ more := by
  refine run_induction (P := fun l' => ∃ more, l'.dialogue.handled = l.dialogue.handled ++ more)
    ⟨[], (List.append_nil _).symm⟩ (fun l' e hl' => ?_) events
  obtain ⟨more, hmore⟩ := hl'
  obtain ⟨more', hmore'⟩ := (l'.steps_step e).handled_grows
  exact ⟨more ++ more', by rw [hmore', hmore, List.append_assoc]⟩

theorem Settled.request_of_lt (hl : Settled c node asked k l) {n : Nat} {h : Handling}
    (hn : n < asked) (hh : l.dialogue.handled[n]? = some h) :
    h.request = (c.key.keyRequest h.request.sequence).toRequest := by
  obtain ⟨s, hs, hreq⟩ := hl.ordered.sent hh
  have hop : s.request.operation ≠ .setConfig := by
    rw [hl.asks n s hn hs]
    exact Operation.noConfusion
  rw [hreq, hl.ordered.sound.authored.keyRequest_of_ne (List.mem_of_getElem? hs) hop]
  rfl

theorem Settled.request_of_ge (hl : Settled c node asked k l) {n : Nat} {h : Handling}
    (hn : asked ≤ n) (hh : l.dialogue.handled[n]? = some h) :
    h.request = (c.key.changeRequest h.request.sequence c.delivery.payload.bytes
      k.bytes).toRequest := by
  obtain ⟨s, hs, hreq⟩ := hl.ordered.sent hh
  have hop := hl.changes n s hn hs
  obtain ⟨k', hk', h'⟩ :=
    hl.ordered.sound.authored.sessionKey_of_change (List.mem_of_getElem? hs) hop
  obtain rfl := Option.some.inj (hk'.symm.trans hl.sessionKey_eq)
  rw [hreq, h']
  rfl

theorem Settled.exists_of_mem_changes (hl : Settled c node asked k l) {h : Handling}
    (hh : h ∈ l.dialogue.changes) : ∃ n, asked ≤ n ∧ l.dialogue.handled[n]? = some h := by
  obtain ⟨hmem, hop⟩ := Dialogue.mem_changes.mp hh
  obtain ⟨n, hn⟩ := List.mem_iff_getElem?.mp hmem
  refine ⟨n, Nat.le_of_not_lt fun hlt => ?_, hn⟩
  rw [hl.request_of_lt hlt hn] at hop
  exact absurd (show (1 : UInt32) = 5 from hop) (by decide)

theorem Settled.issuedKey?_of_ge (hl : Settled c node asked k l) {n : Nat} {h : Handling}
    (hn : asked ≤ n) (hh : l.dialogue.handled[n]? = some h) : h.reply.issuedKey? = none := by
  rw [Response.issuedKey?, if_neg]
  rw [Handling.reply, Authority.operation_handle, hl.request_of_ge hn hh]
  exact fun hop => absurd (show (5 : UInt32) = 1 from hop.1) (by decide)

section Lawful

variable [LawfulSignatureScheme]

theorem Settled.issuedKey?_of_lt (hl : Settled c node asked k l)
    (hkey : c.key.publicKey ∈ node.keys) {n : Nat} {h : Handling} (hn : n < asked)
    (hh : l.dialogue.handled[n]? = some h) : h.reply.issuedKey? = some h.reply.data := by
  have hkeys := hl.ordered.sound.traced.keys_before hh
  have hadmits := c.key.admits_keyRequest (a := h.before) (hkeys ▸ hkey) h.request.sequence
  rw [← hl.request_of_lt hn hh] at hadmits
  have hissued := hadmits.issuedKey?_handle
  rw [Handling.reply, hissued, Response.data_of_issuedKey? hissued]

/-- When a change arrives, the node holds the key with which it answered the last request for
one. -/
theorem Settled.sessionKey_before (hl : Settled c node asked k l) (hnode : node.sessionKey = none)
    (hkey : c.key.publicKey ∈ node.keys) {n : Nat} {h : Handling} (hn : asked ≤ n)
    (hh : l.dialogue.handled[n]? = some h) : ∃ g, l.dialogue.handled[asked - 1]? = some g ∧
      h.before.sessionKey.map (·.bytes) = some g.reply.data := by
  have hpos := hl.asked_pos
  have hlt := (List.getElem?_eq_some_iff.mp hh).1
  obtain ⟨g, hg⟩ : ∃ g, l.dialogue.handled[asked - 1]? = some g :=
    ⟨_, List.getElem?_eq_getElem (by omega)⟩
  refine ⟨g, hg, ?_⟩
  rw [hl.ordered.sound.traced.sessionKey_before hnode hh]
  refine getLast?_issuedKeys (n := asked - 1) (r := g.reply) ?_
    (hl.issuedKey?_of_lt hkey (by omega) hg) (fun n' r hn' hr => ?_)
  · rw [List.getElem?_map, List.getElem?_take_of_lt (by omega), hg, Option.map_some]
  · rw [List.getElem?_map, Option.map_eq_some_iff] at hr
    obtain ⟨h', hh', rfl⟩ := hr
    rw [List.getElem?_take] at hh'
    split at hh'
    · exact hl.issuedKey?_of_ge (by omega) hh'
    · cases hh'

/-- A change over the key that the node holds is carried out. -/
theorem Settled.not_denied (hl : Settled c node asked k l) (hkey : c.key.publicKey ∈ node.keys)
    {h : Handling} (hh : h ∈ l.dialogue.changes)
    (hsame : h.before.sessionKey.map (·.bytes) = some k.bytes) :
    h.reply.commandResult ≠ .denied := by
  obtain ⟨n, hn, hh⟩ := hl.exists_of_mem_changes hh
  have hkeys := hl.ordered.sound.traced.keys_before hh
  have hadmits := c.key.admits_changeRequest (hkeys ▸ hkey) h.request.sequence c.delivery.payload
    hsame
  rw [← hl.request_of_ge hn hh] at hadmits
  rw [Handling.reply, hadmits.handle_eq, Authority.execute]
  dsimp only
  rcases h.before.parameters.applyConfig_fst c.delivery.payload.bytes with hres | hres
  · rw [hres, Request.commandResult_reply _ _ (fun _ => CommandResult.noConfusion)]
    exact CommandResult.noConfusion
  · rw [hres, Request.commandResult_reply _ _ (fun _ => CommandResult.noConfusion)]
    exact CommandResult.noConfusion

/-- A change over another key is denied, unless its signature is good over this one too. -/
theorem Settled.denied (hl : Settled c node asked k l) (hkey : c.key.publicKey ∈ node.keys)
    {h : Handling} (hh : h ∈ l.dialogue.changes)
    (hne : h.before.sessionKey.map (·.bytes) ≠ some k.bytes) :
    h.reply.commandResult = .denied ∨
      h.before.FitsHeldKey c.key h.request.sequence c.delivery.payload.bytes k.bytes := by
  obtain ⟨n, hn, hh⟩ := hl.exists_of_mem_changes hh
  have hreq := hl.request_of_ge hn hh
  have hkeys := hl.ordered.sound.traced.keys_before hh
  have hop : Operation.ofCode? h.request.operation = some .setConfig := by rw [hreq]; rfl
  obtain ⟨_, _, ha, -⟩ | ⟨_, _, ha, -⟩ | ⟨-, result, hr, he⟩ := h.before.handle_cases h.request
  · rw [ha.operation_eq] at hop
    cases hop
  · right
    rw [hreq] at ha
    exact PrivateKey.fitsHeldKey_of_changeRequest (hkeys ▸ hkey) ha hne
  · left
    rw [Handling.reply, he]
    rcases hr with rfl | ⟨-, hnone⟩
    · rfl
    · cases hop.symm.trans hnone

end Lawful

/-! ## Taking the key -/

/-- At a tick on the line the client takes the key `k` from the reply to the request `s` with this
number, which the node has handled in `h`. -/
structure TakesKey (l : Line) (arrived number : Nat) (s : Sending) (h : Handling)
    (k : SessionKey) : Prop where
  /-- It had no key before. -/
  before_eq : l.dialogue.client.handshake.sessionKey = none
  /-- It has the key afterwards. -/
  after_eq : (l.step (.tick arrived)).dialogue.client.handshake.sessionKey = some k
  /-- The reply is one of those that have arrived. -/
  mem : number ∈ List.range' l.read arrived
  /-- The request was sent. -/
  sent : l.dialogue.sent[number]? = some s
  /-- The node has handled it. -/
  handled : l.dialogue.handled[number]? = some h
  /-- The reply carries the key. -/
  data_eq : h.reply.data = k.bytes

theorem Ordered.exists_takesKey (ho : Ordered c node l) {e : LineEvent}
    (hk : l.dialogue.client.handshake.sessionKey = none)
    (hk' : (l.step e).dialogue.client.handshake.sessionKey = some k) :
    ∃ arrived number s h, e = .tick arrived ∧ l.TakesKey arrived number s h k := by
  have hs := l.steps_step e
  cases e with
  | deliver =>
    generalize (l.step .deliver).dialogue = d' at hs hk'
    rw [event] at hs
    cases hs <;> cases hk.symm.trans hk'
  | tick arrived =>
    obtain ⟨r, hr, p, hb⟩ := hs.brings ho.sound.awaiting ho.sound.authored hk hk'
    obtain ⟨number, h, hmem, hh, rfl⟩ := Dialogue.mem_arrivals hr
    obtain ⟨s, hsent, -⟩ := ho.sent hh
    exact ⟨arrived, number, s, h, rfl, hk, hk', hmem, hsent, hh, hb.data_eq⟩

/-- A session key that is held was taken at some tick. -/
theorem exists_takesKey_of_run (hc : c.Fresh) (hnone : c.handshake.sessionKey = none)
    {begun : Instant} {events : List LineEvent}
    (hk : ((new c node begun).run events).dialogue.client.handshake.sessionKey = some k) :
    ∃ before arrived after number s h, events = before ++ .tick arrived :: after ∧
      ((new c node begun).run before).TakesKey arrived number s h k := by
  let P (l : Line) : Prop := l.dialogue.client.handshake.sessionKey = some k
  have hnot : ¬ P (new c node begun) := by
    intro h
    cases hnone.symm.trans h
  obtain ⟨before, e, after, hevents, hbefore, hcross⟩ := exists_crossing hnot hk
  have ho := ordered_run hc node begun before
  -- Another key held before would have stayed.
  have hkbefore : ((new c node begun).run before).dialogue.client.handshake.sessionKey = none := by
    rw [Option.eq_none_iff_forall_ne_some]
    intro k' hk'
    refine hbefore (hk'.trans ?_)
    rw [← hcross, ((new c node begun).run before).steps_step e |>.sessionKey hk']
  obtain ⟨arrived, number, s, h, rfl, htakes⟩ := ho.exists_takesKey hkbefore hcross
  exact ⟨before, arrived, after, number, s, h, hevents, htakes⟩

/-- The line settles with the tick that takes the key. -/
theorem TakesKey.settled {arrived number : Nat} {s : Sending} {h : Handling}
    (ht : l.TakesKey arrived number s h k) (ho : Ordered c node l) (events : List LineEvent) :
    Settled c node l.dialogue.sent.length k ((l.step (.tick arrived)).run events) := by
  have hpos := Nat.lt_of_le_of_lt (Nat.zero_le _) (List.getElem?_eq_some_iff.mp ht.sent).1
  exact run_induction (settled_of_taken ho ht.before_eq ht.after_eq hpos)
    (fun _ e hl => hl.step e) events

/-- An answer that has come is the answer to a change that the node has handled. -/
theorem Ordered.exists_change (ho : Ordered c node l) {result : CommandResult}
    (hout : l.dialogue.client.delivery.outcome = some result) :
    ∃ h ∈ l.dialogue.changes, h.reply.commandResult = result := by
  obtain ⟨number, s, h, hc⟩ := ho.sound.awaiting.outcome result hout
  refine ⟨h, Dialogue.mem_changes.mpr ⟨hc.mem, ?_⟩, hc.result_eq⟩
  rw [hc.request_eq, SignedRequest.toRequest, hc.last.operation_eq]

/-- Without a session key no change has come to the node. -/
theorem Ordered.changes_eq_nil (ho : Ordered c node l)
    (hk : l.dialogue.client.handshake.sessionKey = none) : l.dialogue.changes = [] := by
  refine List.eq_nil_iff_forall_not_mem.mpr fun h hh => ?_
  obtain ⟨hmem, hop⟩ := Dialogue.mem_changes.mp hh
  obtain ⟨s, hs, hreq⟩ := ho.sound.traced.sent h hmem
  rw [hreq] at hop
  obtain ⟨k, hk', -⟩ := ho.sound.authored.sessionKey_of_change (List.mem_of_getElem? hs)
    (Operation.code_inj hop)
  cases hk.symm.trans hk'

theorem TakesKey.handled_run {arrived number : Nat} {s : Sending} {h : Handling}
    (ht : l.TakesKey arrived number s h k) (events : List LineEvent) :
    ((l.step (.tick arrived)).run events).dialogue.handled[number]? = some h := by
  obtain ⟨more, hmore⟩ := l.handled_run (.tick arrived :: events)
  refine Eq.trans ?_ ht.handled
  rw [← List.getElem?_append_left (List.getElem?_eq_some_iff.mp ht.handled).1, ← hmore]
  rfl

section Agreement

variable [LawfulSignatureScheme] {arrived number : Nat} {s : Sending} {h : Handling}

/-- A key that came with the last reply is the one that the node holds when a change arrives. -/
theorem TakesKey.sessionKey_eq (ht : l.TakesKey arrived number s h k) (ho : Ordered c node l)
    (hnode : node.sessionKey = none) (hkey : c.key.publicKey ∈ node.keys)
    (hlast : number = l.dialogue.sent.length - 1) (events : List LineEvent) {g : Handling}
    (hg : g ∈ ((l.step (.tick arrived)).run events).dialogue.changes) :
    g.before.sessionKey.map (·.bytes) = some k.bytes := by
  have hl := ht.settled ho events
  obtain ⟨n, hn, hgn⟩ := hl.exists_of_mem_changes hg
  obtain ⟨g', hg', hsession⟩ := hl.sessionKey_before hnode hkey hn hgn
  rw [← hlast, ht.handled_run events] at hg'
  rw [hsession, ← Option.some.inj hg', ht.data_eq]

/-- A key that came with an earlier reply has been replaced, if none was issued twice. -/
theorem TakesKey.sessionKey_ne (ht : l.TakesKey arrived number s h k) (ho : Ordered c node l)
    (hnode : node.sessionKey = none) (hkey : c.key.publicKey ∈ node.keys)
    (hearlier : number ≠ l.dialogue.sent.length - 1) {events : List LineEvent} {g : Handling}
    (hg : g ∈ ((l.step (.tick arrived)).run events).dialogue.changes)
    (hnodup : (issuedKeys (((l.step (.tick arrived)).run events).dialogue.handled.map
      Handling.reply)).Nodup) :
    g.before.sessionKey.map (·.bytes) ≠ some k.bytes := by
  have hl := ht.settled ho events
  have hlt := (List.getElem?_eq_some_iff.mp ht.sent).1
  obtain ⟨n, hn, hgn⟩ := hl.exists_of_mem_changes hg
  obtain ⟨g', hg', hsession⟩ := hl.sessionKey_before hnode hkey hn hgn
  have hh := ht.handled_run events
  have hne : h.reply.data ≠ g'.reply.data := by
    have hearlier' : number < l.dialogue.sent.length - 1 := by omega
    refine issuedKeys_ne hnodup hearlier' ?_ ?_
      (hl.issuedKey?_of_lt hkey hlt hh) (hl.issuedKey?_of_lt hkey (by omega) hg')
    · rw [List.getElem?_map, hh, Option.map_some]
    · rw [List.getElem?_map, hg', Option.map_some]
  rw [hsession, ← ht.data_eq]
  exact fun heq => hne (Option.some.inj heq).symm

end Agreement

/-- Without a session key no change arrives at the node. The client takes its key `k` at some tick
from the reply to a request, and every change is over `k`. If the request had been sent at most the
retry interval before the tick, the node holds `k` whenever a change arrives, and none is denied. If
it had been sent earlier and no key is issued twice, the node never holds `k` when a change arrives,
and the change is denied, unless its own signature is good over the key that the node holds too. -/
theorem key_agreement [LawfulSignatureScheme] {target : UInt32} {key : PrivateKey}
    {change : String} {start : UInt32} {client : Client}
    (hclient : Client.new { target := target } key change start = .ok client)
    {keys : List PublicKey} (hkey : key.publicKey ∈ keys.take maxPublicKeys)
    (table : ParameterTable) (source : Nat → Block sessionKeyLength) (begun : Instant)
    (events : List LineEvent) :
    let first := new client (.new keys table source) begun
    let d := (first.run events).dialogue
    (d.client.handshake.sessionKey = none →
      d.changes = [] ∧ d.client.delivery.outcome = none) ∧
    ∀ k, d.client.handshake.sessionKey = some k →
      ∃ before arrived after number s h, events = before ++ .tick arrived :: after ∧
        (first.run before).TakesKey arrived number s h k ∧
        (∀ g ∈ d.changes, g.request =
          (key.changeRequest g.request.sequence (Bytes.ofString change) k.bytes).toRequest) ∧
        ((first.run before).now ≤ s.time + defaultRetryInterval →
          (∀ g ∈ d.changes, g.before.sessionKey.map (·.bytes) = some k.bytes) ∧
          d.client.delivery.outcome ≠ some .denied) ∧
        (s.time + defaultRetryInterval < (first.run before).now →
          (issuedKeys (d.handled.map Handling.reply)).Nodup →
          (∀ g ∈ d.changes, g.before.sessionKey.map (·.bytes) ≠ some k.bytes) ∧
          ∀ result, d.client.delivery.outcome = some result → result = .denied ∨
            ∃ g ∈ d.changes, g.reply.commandResult = result ∧
              g.before.keys = keys.take maxPublicKeys ∧
              g.before.FitsHeldKey key g.request.sequence (Bytes.ofString change) k.bytes) := by
  intro first d
  have hfresh := Client.fresh_of_new hclient
  obtain ⟨payload, hpayload, rfl⟩ := Client.new_eq_ok hclient
  have ho := ordered_run hfresh (.new keys table source) begun
  refine ⟨fun hk => ?_, fun k hk => ?_⟩
  · exact ⟨(ho events).changes_eq_nil hk,
      ((ho events).sound.awaiting.of_none (ho events).sound.authored hk).2⟩
  · obtain ⟨before, arrived, after, number, s, h, rfl, ht⟩ :=
      exists_takesKey_of_run hfresh rfl hk
    have hbefore := ho before
    have hpaced := paced_run hfresh rfl (.new keys table source) begun before ht.before_eq
    have hrun : first.run (before ++ .tick arrived :: after) =
        ((first.run before).step (.tick arrived)).run after := run_append _ _ _
    have hd : d = (((first.run before).step (.tick arrived)).run after).dialogue :=
      congrArg Line.dialogue hrun
    have hl := ht.settled hbefore after
    -- The reply came in time if and only if it was the reply to the last request.
    have hlast := hpaced.le_iff ht.sent
    refine ⟨before, arrived, after, number, s, h, rfl, ht, ?_⟩
    rw [hd]
    refine ⟨fun g hg => ?_, fun hintime => ?_, fun hlate hnodup => ?_⟩
    · obtain ⟨n, hn, hgn⟩ := hl.exists_of_mem_changes hg
      rw [← hpayload]
      exact hl.request_of_ge hn hgn
    · refine ⟨fun g hg => ht.sessionKey_eq hbefore rfl hkey (hlast.mp hintime) after hg,
        fun hout => ?_⟩
      obtain ⟨g, hg, hres⟩ := hl.ordered.exists_change hout
      exact hl.not_denied hkey hg
        (ht.sessionKey_eq hbefore rfl hkey (hlast.mp hintime) after hg) hres
    · have hearlier : number ≠ (first.run before).dialogue.sent.length - 1 :=
        fun he => Nat.not_le.mpr hlate (hlast.mpr he)
      refine ⟨fun g hg => ht.sessionKey_ne hbefore rfl hkey hearlier hg hnodup,
        fun result hout => ?_⟩
      obtain ⟨g, hg, rfl⟩ := hl.ordered.exists_change hout
      rw [← hpayload]
      refine (hl.denied hkey hg (ht.sessionKey_ne hbefore rfl hkey hearlier hg hnodup)).imp_right
        fun hfits => ⟨g, hg, rfl, ?_, hfits⟩
      obtain ⟨n, -, hgn⟩ := hl.exists_of_mem_changes hg
      exact hl.ordered.sound.traced.keys_before hgn

end Scheme

/-! ## In time and late -/

/-- A stand-in for a signature scheme: both halves of a key are the same, and a signature is the
digest of the key and the message. -/
@[reducible] def keyedHash : SignatureScheme where
  publicKey key := ⟨key.seed⟩
  isPublicKey _ := true
  sign key message := ⟨Sha512.digest (key.seed.bytes ++ message), Sha512.length_digest _⟩
  verify key message signature := signature.bytes == Sha512.digest (key.block.bytes ++ message)

theorem lawful_keyedHash : @LawfulSignatureScheme keyedHash :=
  @LawfulSignatureScheme.mk keyedHash fun _ _ => beq_self_eq_true _

section KeyedHash

attribute [local instance] keyedHash lawful_keyedHash

/-- The operator's client and a node that trusts it. -/
def lockLine : Line :=
  new Dialogue.lockClient (.new [Dialogue.operator.publicKey] .initial Authority.numberedKey) 0

theorem operator_trusted :
    Dialogue.operator.publicKey ∈ [Dialogue.operator.publicKey].take maxPublicKeys :=
  List.mem_singleton_self Dialogue.operator.publicKey

/-- No message takes longer than the time between two ticks. -/
def promptEvents : List LineEvent := [.tick 0, .deliver, .tick 1, .deliver, .tick 1]

/-- The reply with the key arrives after two and a half seconds. -/
def lateEvents : List LineEvent :=
  [.tick 0, .deliver] ++ List.replicate 20 (.tick 0) ++ [.deliver] ++ List.replicate 4 (.tick 0) ++
    [.tick 1, .deliver, .tick 2]

theorem run_promptEvents :
    (lockLine.run promptEvents).dialogue.client.handshake.sessionKey =
        some ⟨(Authority.numberedKey 0).bytes, by decide⟩ ∧
      (lockLine.run promptEvents).dialogue.changes.length = 1 ∧
      (lockLine.run promptEvents).dialogue.client.delivery.outcome = some .accepted := by
  decide +kernel

theorem run_lateEvents :
    (lockLine.run lateEvents).dialogue.client.handshake.sessionKey =
        some ⟨(Authority.numberedKey 0).bytes, by decide⟩ ∧
      (lockLine.run lateEvents).dialogue.changes.length = 1 ∧
      (issuedKeys ((lockLine.run lateEvents).dialogue.handled.map Handling.reply)).Nodup ∧
      (lockLine.run lateEvents).dialogue.client.delivery.outcome = some .denied := by
  decide +kernel

/-- The signature of the late change is not good over the key that the node holds by then. -/
theorem not_fitsHeldKey_lateEvents :
    ∀ g ∈ (lockLine.run lateEvents).dialogue.changes,
      ¬ g.before.FitsHeldKey Dialogue.operator g.request.sequence (Bytes.ofString "LOCK_LEVEL=1")
        (Authority.numberedKey 0).bytes := by
  have hverify : ∀ g ∈ (lockLine.run lateEvents).dialogue.changes, ∀ key ∈ g.before.keys,
      verifyCommand key g.request.sequence .setConfig (Bytes.ofString "LOCK_LEVEL=1")
        (g.before.sessionKey.map (·.bytes))
        (Dialogue.operator.changeRequest g.request.sequence (Bytes.ofString "LOCK_LEVEL=1")
          (Authority.numberedKey 0).bytes).signature.bytes = false := by
    decide +kernel
  rintro g hg ⟨held, hheld, hfits⟩
  obtain ⟨key, hkey, hgood⟩ := hfits.verify'
  rw [← hheld] at hgood
  cases (hverify g hg key hkey).symm.trans hgood

theorem key_agreement_lockLine :
    ((lockLine.run promptEvents).dialogue.client.delivery.outcome = some .accepted ∧
      (lockLine.run promptEvents).dialogue.changes.length = 1 ∧
      ∃ before arrived after number s h, promptEvents = before ++ .tick arrived :: after ∧
        (lockLine.run before).TakesKey arrived number s h
          ⟨(Authority.numberedKey 0).bytes, by decide⟩ ∧
        ∀ g ∈ (lockLine.run promptEvents).dialogue.changes, g.request =
          (Dialogue.operator.changeRequest g.request.sequence (Bytes.ofString "LOCK_LEVEL=1")
            (Authority.numberedKey 0).bytes).toRequest) ∧
    (lockLine.run lateEvents).dialogue.changes.length = 1 ∧
      ∃ before arrived after number s h, lateEvents = before ++ .tick arrived :: after ∧
        (lockLine.run before).TakesKey arrived number s h
          ⟨(Authority.numberedKey 0).bytes, by decide⟩ ∧
        s.time + defaultRetryInterval < (lockLine.run before).now ∧
        (∀ g ∈ (lockLine.run lateEvents).dialogue.changes,
          g.before.sessionKey.map (·.bytes) ≠ some (Authority.numberedKey 0).bytes) ∧
        ∀ result, (lockLine.run lateEvents).dialogue.client.delivery.outcome = some result →
          result = .denied := by
  have hagree := key_agreement Dialogue.new_lockClient operator_trusted .initial
    Authority.numberedKey 0
  dsimp only at hagree
  rw [← lockLine] at hagree
  constructor
  · obtain ⟨hsession, hchanges, hout⟩ := run_promptEvents
    obtain ⟨before, arrived, after, number, s, h, hevents, ht, hover, -⟩ :=
      (hagree promptEvents).2 _ hsession
    exact ⟨hout, hchanges, before, arrived, after, number, s, h, hevents, ht, hover⟩
  · obtain ⟨hsession, hchanges, hnodup, hout⟩ := run_lateEvents
    obtain ⟨before, arrived, after, number, s, h, hevents, ht, -, hintime, hlate⟩ :=
      (hagree lateEvents).2 _ hsession
    have hafter : s.time + defaultRetryInterval < (lockLine.run before).now :=
      Nat.lt_of_not_le fun hle => (hintime hle).2 hout
    obtain ⟨hother, hdenied⟩ := hlate hafter hnodup
    refine ⟨hchanges, before, arrived, after, number, s, h, hevents, ht, hafter, hother,
      fun result hresult => (hdenied result hresult).resolve_right ?_⟩
    rintro ⟨g, hg, -, -, hfits⟩
    exact not_fitsHeldKey_lateEvents g hg hfits

/-- On a line too a change may arrive over another key than the node holds, and be denied. -/
theorem not_key_agreement :
    ¬ ∀ (_ : SignatureScheme) (_ : LawfulSignatureScheme) (target : UInt32) (key : PrivateKey)
        (change : String) (start : UInt32) (client : Client) (keys : List PublicKey)
        (table : ParameterTable) (source : Nat → Block sessionKeyLength) (begun : Instant)
        (events : List LineEvent),
      Client.new { target := target } key change start = .ok client →
        key.publicKey ∈ keys.take maxPublicKeys →
          let d := ((new client (.new keys table source) begun).run events).dialogue
          (∀ g ∈ d.changes, ∃ sessionKey, g.before.sessionKey.map (·.bytes) = some sessionKey ∧
            g.request = (key.changeRequest g.request.sequence (Bytes.ofString change)
              sessionKey).toRequest) ∧
          d.client.delivery.outcome ≠ some .denied := by
  intro h
  have hlate := h keyedHash lawful_keyedHash 0 Dialogue.operator "LOCK_LEVEL=1" 3
    Dialogue.lockClient [Dialogue.operator.publicKey] .initial Authority.numberedKey 0 lateEvents
    Dialogue.new_lockClient operator_trusted
  dsimp only at hlate
  rw [← lockLine] at hlate
  exact hlate.2 run_lateEvents.2.2.2

end KeyedHash

end Line

end SignedControl
