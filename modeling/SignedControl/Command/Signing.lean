import SignedControl.Command.Message

/-!
# What a signature covers

The signed bytes of a command are its sequence number and its operation, as 32-bit words with the
least significant byte first, then the payload, and, for every operation but the request for a
session key, the session key.
-/

namespace SignedControl

/-- Why a command cannot be signed. -/
inductive SignError where
  /-- The operation's signatures cover a session key, and there is none. -/
  | missingSessionKey (operation : Operation)
deriving DecidableEq, Repr

/-- The wording of a signing error. -/
def SignError.message : SignError → String
  | .missingSessionKey operation => "No session key held for " ++ operation.name

/-- The bytes that a command's signature covers. -/
def canonicalMessage (sequence : UInt32) (operation : Operation) (payload : Bytes)
    (sessionKey : Option Bytes) : Except SignError Bytes :=
  let head := Bytes.le32 sequence ++ Bytes.le32 operation.code ++ payload
  if operation.needsSessionKey then
    match sessionKey with
    | some key => .ok (head ++ key)
    | none => .error (.missingSessionKey operation)
  else .ok head

theorem canonicalMessage_getSessionKey (sequence : UInt32) (payload : Bytes)
    (sessionKey : Option Bytes) :
    canonicalMessage sequence .getSessionKey payload sessionKey =
      .ok (Bytes.le32 sequence ++ Bytes.le32 1 ++ payload) := rfl

theorem canonicalMessage_setConfig (sequence : UInt32) (payload sessionKey : Bytes) :
    canonicalMessage sequence .setConfig payload (some sessionKey) =
      .ok (Bytes.le32 sequence ++ Bytes.le32 5 ++ payload ++ sessionKey) := rfl

variable [SignatureScheme]

/-- Whether a signature of a command is valid under a public key. A command that cannot be signed
has no valid signature. -/
def verifyCommand (key : PublicKey) (sequence : UInt32) (operation : Operation) (payload : Bytes)
    (sessionKey : Option Bytes) (signature : Bytes) : Bool :=
  match canonicalMessage sequence operation payload sessionKey with
  | .ok message => key.verify message signature
  | .error _ => false

namespace PrivateKey

/-- The signature of a command. -/
def signCommand (key : PrivateKey) (sequence : UInt32) (operation : Operation) (payload : Bytes)
    (sessionKey : Option Bytes) : Except SignError Signature :=
  (canonicalMessage sequence operation payload sessionKey).map key.sign

/-- A command with its signature. -/
def signRequest (key : PrivateKey) (sequence : UInt32) (operation : Operation) (payload : Bytes)
    (sessionKey : Option Bytes) : Except SignError SignedRequest :=
  (key.signCommand sequence operation payload sessionKey).map fun signature =>
    { sequence, operation, payload, signature }

end PrivateKey

end SignedControl
