import SignedControl.Firmware.Image

/-!
# Accepting an update

Whether a node takes an image as its next firmware depends on its keys, its board and its lock
level. An image for another board is refused at every lock level; every other fault is forgiven at
lock level zero.
-/

namespace SignedControl.Firmware

/-- Refuses an image for another board. Board zero stands for all boards. -/
def checkBoard (d : Descriptor) (expected : UInt32) : Except Error Unit :=
  if d.boardId ≠ 0 ∧ d.boardId ≠ expected then .error (.boardMismatch expected d.boardId)
  else .ok ()

/-- Why an image is accepted. -/
inductive Acceptance where
  /-- A trusted key verifies it. -/
  | verified (d : Descriptor)
  /-- The node trusts no keys, so that a well-formed image will do. -/
  | noKeys
  /-- The node is unlocked, and does not mind the fault. -/
  | unlocked (fault : Error)
deriving DecidableEq

variable [SignatureScheme]

/-- The decision about an image, apart from the lock level: an error may be forgiven if it is
marked so. -/
def judge (signed : Bytes) (keys : List PublicKey) (boardId : UInt32) :
    Except (Bool × Error) Acceptance :=
  match split signed with
  | .error e => .error (true, e)
  | .ok (_, d) =>
    match checkBoard d boardId with
    | .error e => .error (false, e)
    | .ok () =>
      if keys.isEmpty then .ok .noKeys
      else
        match verifyWithKeys signed keys with
        | .ok d => .ok (.verified d)
        | .error e => .error (true, e)

/-- The decision about an image at a lock level. -/
def checkUpdate (signed : Bytes) (keys : List PublicKey) (boardId : UInt32) (lockLevel : UInt8) :
    Except Error Acceptance :=
  match judge signed keys boardId with
  | .ok acceptance => .ok acceptance
  | .error (forgivable, e) =>
    if forgivable && lockLevel == 0 then .ok (.unlocked e) else .error e

end SignedControl.Firmware
