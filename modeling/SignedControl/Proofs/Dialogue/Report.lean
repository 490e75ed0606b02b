import SignedControl.Proofs.Dialogue.Answer
import SignedControl.Proofs.Node.Replay

/-!
# What a client reports has happened

* `Dialogue.tick_reports`: the result that a tick gives is the node's own answer to the change that
  the client sent last, given before the tick. If it is `accepted`, the signature held and the table
  took every entry.
-/

namespace SignedControl

theorem Tick.result_eq_ok {t : Tick} {result : Option CommandResult}
    (h : t.result.toOption = some result) : t.result = .ok result := by
  cases hr : t.result with
  | error e => rw [hr] at h; cases h
  | ok reported => rw [hr] at h; exact congrArg _ (Option.some.inj h)

namespace Dialogue

section Scheme

variable [SignatureScheme]

/-- A result that a tick gives is the node's answer to the change sent last, given before. If it is
`accepted`, the change was admitted, and the table took each entry after those before it. -/
theorem tick_reports {config : ClientConfig} {key : PrivateKey} {change : String} {start : UInt32}
    {client : Client} (hclient : Client.new config key change start = .ok client)
    (node : Authority) (events : List Event) (now : Instant) (numbers : List Nat)
    (outcome : Except TransportError Unit) (result : CommandResult)
    (hresult : (((new client node).run events).client.tick now
      (((new client node).run events).arrivals numbers) outcome).result = .ok (some result)) :
    ∃ number s h, ((new client node).run events).Concludes number s h result ∧
      s.request.payload = Bytes.ofString change ∧
      (result = .accepted →
        h.before.Admits h.request .setConfig s.request.payload s.request.signature.bytes ∧
          ∃ entries, configEntries? s.request.payload = some entries ∧
            ∀ before name value after, entries = before ++ (name, value) :: after →
              ((h.before.parameters.applyEntries before).2.setByName name value).1 = true) := by
  have hd := sound_run (Client.fresh_of_new hclient) node events
  obtain ⟨payload, hpayload, rfl⟩ := Client.new_eq_ok hclient
  obtain ⟨number, s, h, hc⟩ := hd.concludes_of_tick hresult
  refine ⟨number, s, h, hc, ?_, fun haccepted => ?_⟩
  · obtain ⟨k, -, hchange⟩ := hd.authored.sessionKey_of_change
      (List.mem_of_getElem? hc.last.sent) hc.last.operation_eq
    rw [hchange, ← hpayload]
    rfl
  · have hres := hc.result_eq
    rw [Handling.reply, hc.request_eq, haccepted] at hres
    obtain ⟨hadmits, htable⟩ := Authority.accepted_change hc.last.operation_eq hres
    obtain ⟨entries, hentries, htaken⟩ := (ParameterTable.applyConfig_accepted_iff _ _).mp htable
    refine ⟨by rw [hc.request_eq]; exact hadmits, entries, hentries, ?_⟩
    exact (ParameterTable.applyEntries_fst_iff _ _).mp htaken

end Scheme

/-- The operator's private key. -/
def operator : PrivateKey := ⟨Block.fill keyLength 1⟩

/-- The client with which the operator locks the node. -/
def lockClient : Client where
  target := 0
  key := operator
  counter := ⟨3⟩
  handshake := .new defaultTimeout defaultRetryInterval
  delivery := .new ⟨Authority.lockPayload, by decide⟩ defaultTimeout defaultRetryInterval

/-- A request for a session key and the change, each answered by the next tick. -/
def lockEvents : List Event :=
  [.tick 0 [] (.ok ()), .deliver 0, .tick tickInterval [0] (.ok ()), .deliver 1]

theorem new_lockClient : Client.new {} operator "LOCK_LEVEL=1" 3 = .ok lockClient := rfl

theorem result_lockClient :
    (((new lockClient Authority.lockedNode).run lockEvents).client.tick (2 * tickInterval)
      (((new lockClient Authority.lockedNode).run lockEvents).arrivals [1]) (.ok ())).result =
        .ok (some .accepted) :=
  Tick.result_eq_ok (by decide +kernel)

theorem tick_reports_lockClient :
    ∃ number s h, ((new lockClient Authority.lockedNode).run lockEvents).Concludes number s h
      .accepted ∧ s.request.payload = Bytes.ofString "LOCK_LEVEL=1" ∧
      h.before.Admits h.request .setConfig s.request.payload s.request.signature.bytes ∧
      ∃ entries, configEntries? s.request.payload = some entries ∧
        ∀ before name value after, entries = before ++ (name, value) :: after →
          ((h.before.parameters.applyEntries before).2.setByName name value).1 = true := by
  obtain ⟨number, s, h, hconcludes, hpayload, haccepted⟩ := tick_reports new_lockClient
    Authority.lockedNode lockEvents (2 * tickInterval) [1] (.ok ()) .accepted result_lockClient
  exact ⟨number, s, h, hconcludes, hpayload, haccepted rfl⟩

end Dialogue

end SignedControl
