import SignedControl.Proofs.Client.Order
import SignedControl.Tool.SendCommand

/-!
# The exit status of the command tool

The tool ticks until the node has answered, and exits with the code of the answer; if a request
cannot be sent, it exits with 1. A code is a word of 32 bits, and whoever can write to the stream
may choose it, as replies are not signed. A status is a byte. So a status of zero means that the low
byte of the code is zero; it means that the change was accepted only as long as nodes give no codes
above 255.

* `Client.exit?`: the status with which the tool exits.
* `Client.exit?_cases`: what has ended the run.
* `Client.exit_of_reply`: what the status says of the reply.
* `Client.exit_wrapped`: a status of zero for a change that was not accepted.
-/

namespace SignedControl

open Tool.SendCommand (exitStatus)

theorem CommandResult.ofCode_eq_accepted_iff {code : UInt32} :
    ofCode code = .accepted ↔ code = 0 := by
  constructor
  · intro h
    rw [← code_ofCode code, h]
    rfl
  · rintro rfl
    rfl

/-- The status is the low byte of the code that has come in. -/
theorem Response.toNat_exitStatus (r : Response) :
    (exitStatus r.commandResult).toNat = r.result.toNat % 256 := by
  rw [exitStatus, commandResult, CommandResult.code_ofCode, UInt8.toNat_ofNat']

theorem Response.exitStatus_of_accepted {r : Response} (h : r.commandResult = .accepted) :
    exitStatus r.commandResult = 0 := by
  rw [h]
  rfl

/-- A code that fits into the status is told from zero. -/
theorem Response.accepted_of_exitStatus {r : Response} (hsmall : r.result.toNat < 256)
    (h : exitStatus r.commandResult = 0) : r.commandResult = .accepted := by
  have hstatus := r.toNat_exitStatus
  rw [h, Nat.mod_eq_of_lt hsmall] at hstatus
  exact CommandResult.ofCode_eq_accepted_iff.mpr (UInt32.toNat_inj.mp hstatus.symm)

namespace Client

section Scheme

variable [SignatureScheme] {c : Client}

/-- The status with which the tool exits, if it does so in some turns. -/
def exit? (c : Client) : List Turn → Option UInt8
  | [] => none
  | t :: later =>
    match (c.turn t).result with
    | .ok (some result) => some (exitStatus result)
    | .ok none => (c.turn t).client.exit? later
    | .error _ => some 1

/-- At the turn `t`, which follows the turns `before`, the reply `r` ends the run. -/
structure EndedBy (c : Client) (before : List Turn) (t : Turn) (r : Response) : Prop where
  /-- It has arrived. -/
  mem_arrived : r ∈ t.arrived
  /-- It is a reply to a change. -/
  operation_eq : r.operation = Operation.setConfig.code
  /-- Its result is that of the turn. -/
  result_eq : ((c.run before).turn t).result = .ok (some r.commandResult)

/-- A result that a turn gives is that of a reply. -/
theorem exists_endedBy (hout : c.delivery.outcome = none) {t : Turn} {result : CommandResult}
    (h : (c.turn t).result = .ok (some result)) :
    ∃ r, c.EndedBy [] t r ∧ result = r.commandResult := by
  have ht := c.ticks_turn t
  generalize hturn : c.turn t = tick at ht h
  cases ht with
  | finished hdone => cases hout.symm.trans hdone
  | @answered read unread r _ _ harrived hop =>
    cases h
    refine ⟨r, ⟨?_, hop, congrArg Tick.result hturn⟩, rfl⟩
    rw [harrived]
    exact List.mem_append_right _ List.mem_cons_self
  | idle | sent | failed => cases h

/-- Without a result there is none to come back to. -/
theorem outcome_of_result_none {t : Turn} (h : (c.turn t).result = .ok none) :
    (c.turn t).client.delivery.outcome = none := by
  have ht := c.ticks_turn t
  generalize c.turn t = tick at ht h
  cases ht with
  | finished | answered | failed => cases h
  | idle hout => exact hout
  | sent hout =>
    rw [outcome_sent]
    exact hout

/-- A run ends with a reply, or because a request cannot be sent. -/
theorem exit?_cases (hout : c.delivery.outcome = none) {turns : List Turn} {status : UInt8}
    (h : c.exit? turns = some status) :
    (∃ before t later r, turns = before ++ t :: later ∧ c.EndedBy before t r ∧
      status = exitStatus r.commandResult) ∨
    ∃ before t later e, turns = before ++ t :: later ∧
      ((c.run before).turn t).result = .error e ∧ status = 1 := by
  induction turns generalizing c with
  | nil => cases h
  | cons t turns ih =>
    rw [exit?] at h
    split at h
    · next result hresult =>
      cases h
      obtain ⟨r, hended, rfl⟩ := exists_endedBy hout hresult
      exact .inl ⟨[], t, turns, r, rfl, hended, rfl⟩
    · next hresult =>
      rcases ih (outcome_of_result_none hresult) h with
        ⟨before, t', later, r, rfl, hended, hstatus⟩ | ⟨before, t', later, e, rfl, he, hstatus⟩
      · exact .inl ⟨t :: before, t', later, r, rfl,
          ⟨hended.mem_arrived, hended.operation_eq, hended.result_eq⟩, hstatus⟩
      · exact .inr ⟨t :: before, t', later, e, rfl, he, hstatus⟩
    · next e hresult =>
      cases h
      exact .inr ⟨[], t, turns, e, rfl, hresult, rfl⟩

/-- If the tool exits, a reply has ended the run, and the status is the low byte of its code; or a
request could not be sent, and the status is 1. The status is zero if the node has accepted the
change, and only then if the code is at most 255. -/
theorem exit_of_reply {config : ClientConfig} {key : PrivateKey} {change : String} {start : UInt32}
    (hc : new config key change start = .ok c) {turns : List Turn} {status : UInt8}
    (h : c.exit? turns = some status) :
    (∃ before t later r, turns = before ++ t :: later ∧ c.EndedBy before t r ∧
      status.toNat = r.result.toNat % 256 ∧
      (r.commandResult = .accepted → status = 0) ∧
      (r.result.toNat < 256 → status = 0 → r.commandResult = .accepted)) ∨
    ∃ before t later e, turns = before ++ t :: later ∧
      ((c.run before).turn t).result = .error e ∧ status = 1 := by
  have hout : c.delivery.outcome = none := by
    obtain ⟨payload, -, rfl⟩ := new_eq_ok hc
    rfl
  rcases exit?_cases hout h with ⟨before, t, later, r, hsplit, hended, rfl⟩ | herror
  · exact .inl ⟨before, t, later, r, hsplit, hended, r.toNat_exitStatus,
      Response.exitStatus_of_accepted, Response.accepted_of_exitStatus⟩
  · exact .inr herror

end Scheme

theorem exit_of_reply_answerTurn :
    (locking 3).exit? [askTurn, takeTurn, answerTurn] = some 0 ∧
      ∃ before t later r, [askTurn, takeTurn, answerTurn] = before ++ t :: later ∧
        (locking 3).EndedBy before t r ∧ r.result.toNat % 256 = 0 := by
  have hexit : (locking 3).exit? [askTurn, takeTurn, answerTurn] = some 0 := rfl
  refine ⟨hexit, ?_⟩
  rcases exit_of_reply (new_locking 3) hexit with
    ⟨before, t, later, r, hsplit, hended, hstatus, -⟩ | ⟨_, _, _, _, -, -, hstatus⟩
  · exact ⟨before, t, later, r, hsplit, hended, hstatus.symm⟩
  · cases hstatus

/-- A turn that finds the change answered with the least code that is no byte. -/
def wrappedTurn : Turn := ⟨2 * tickInterval, [⟨4, 5, 256, []⟩], .ok ()⟩

/-- The node has not accepted the change, and still the status is zero. -/
theorem exit_wrapped :
    (locking 3).EndedBy [askTurn, takeTurn] wrappedTurn ⟨4, 5, 256, []⟩ ∧
      (⟨4, 5, 256, []⟩ : Response).commandResult = .invalid 256 ∧
      (locking 3).exit? [askTurn, takeTurn, wrappedTurn] = some 0 :=
  ⟨⟨List.mem_singleton_self _, rfl, rfl⟩, rfl, rfl⟩

end Client

end SignedControl
