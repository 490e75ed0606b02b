/-!
# Operations and results

What a node can be asked to do, and what it can answer. Both travel as 32-bit codes. An operation
code that is not known is no operation; a result code that is not known is still a result.
-/

namespace SignedControl

/-- What a command asks of a node. -/
inductive Operation where
  /-- Issue a fresh session key. -/
  | getSessionKey
  /-- Apply a list of parameter changes. -/
  | setConfig
deriving DecidableEq, Repr

namespace Operation

/-- The code of an operation. -/
def code : Operation → UInt32
  | .getSessionKey => 1
  | .setConfig => 5

/-- The operation with a code, if there is one. -/
def ofCode? (code : UInt32) : Option Operation :=
  if code = 1 then some .getSessionKey else if code = 5 then some .setConfig else none

/-- The name of an operation. -/
def name : Operation → String
  | .getSessionKey => "GetSessionKey"
  | .setConfig => "SetConfig"

/-- Whether signatures of the operation cover the session key. -/
def needsSessionKey : Operation → Bool
  | .getSessionKey => false
  | .setConfig => true

theorem ofCode?_code (op : Operation) : ofCode? op.code = some op := by
  cases op <;> rfl

theorem ofCode?_eq_some_iff {code : UInt32} {op : Operation} :
    ofCode? code = some op ↔ code = op.code := by
  constructor
  · intro h
    unfold ofCode? at h
    split at h
    · cases h; assumption
    · split at h
      · cases h; assumption
      · cases h
  · rintro rfl; exact ofCode?_code op

end Operation

/-- What a node answers to a command. -/
inductive CommandResult where
  /-- The command was carried out. -/
  | accepted
  /-- The command may be tried again later. -/
  | temporarilyRejected
  /-- The command was not authorised. -/
  | denied
  /-- The operation is not known. -/
  | unsupported
  /-- The command was authorised but could not be carried out in full. -/
  | failed
  /-- A code outside the known ones. -/
  | invalid (code : UInt32)
deriving DecidableEq, Repr

namespace CommandResult

/-- The code of a result. -/
def code : CommandResult → UInt32
  | .accepted => 0
  | .temporarilyRejected => 1
  | .denied => 2
  | .unsupported => 3
  | .failed => 4
  | .invalid code => code

/-- The result with a code. -/
def ofCode (code : UInt32) : CommandResult :=
  if code = 0 then .accepted
  else if code = 1 then .temporarilyRejected
  else if code = 2 then .denied
  else if code = 3 then .unsupported
  else if code = 4 then .failed
  else .invalid code

/-- The word for a result. -/
def label : CommandResult → String
  | .accepted => "ACCEPTED"
  | .temporarilyRejected => "TEMPORARILY_REJECTED"
  | .denied => "DENIED"
  | .unsupported => "UNSUPPORTED"
  | .failed => "FAILED"
  | .invalid _ => "invalid"

/-- The name of a result, with its code where the code is not known. -/
def name : CommandResult → String
  | .accepted => "Accepted"
  | .temporarilyRejected => "TemporarilyRejected"
  | .denied => "Denied"
  | .unsupported => "Unsupported"
  | .failed => "Failed"
  | .invalid code => "Invalid(" ++ toString code.toNat ++ ")"

/-- The code of the result with a code is that code. -/
theorem code_ofCode (c : UInt32) : (ofCode c).code = c := by
  unfold ofCode
  split
  · next h => exact h.symm
  split
  · next h => exact h.symm
  split
  · next h => exact h.symm
  split
  · next h => exact h.symm
  split
  · next h => exact h.symm
  rfl

end CommandResult

end SignedControl
